import CollectionSearch.Proofs.Expression.Syntax

/-!
# Parsing filter expressions

The syntax tree of a text, by a machine that takes one token after the other. The machine keeps a
frame for the chain it is in and one for each chain around it; a closing parenthesis makes a term
of the innermost chain and gives it to the next.

* `Frame` : how far a chain has been read, with `Frame.push` and `Frame.connect`.
* `step`, `parse` : the machine and what it makes of a text.

**Main statements:** `run_tokens` says that the machine takes the tokens of a term as it would take
the term itself, and `parse_text` that a tree is read back from its text.
-/

namespace CollectionSearch.Expression

/-! ## The machine -/

/-- How far a chain has been read. -/
inductive Frame where
  /-- Nothing of it. -/
  | empty
  /-- Up to a term. -/
  | read (chain : Chain)
  /-- Up to a connective. -/
  | pending (chain : Chain) (c : Connective)

/-- The chain with one term more. -/
def Chain.snoc (chain : Chain) (c : Connective) (t : Term) : Chain :=
  ⟨chain.first, chain.rest ++ [(c, t)]⟩

/-- The next term of a chain, where one may stand. -/
def Frame.push (t : Term) : Frame → Option Frame
  | empty => some (read ⟨t, []⟩)
  | read _ => none
  | pending chain c => some (read (chain.snoc c t))

/-- The next connective of a chain, where one may stand. -/
def Frame.connect (c : Connective) : Frame → Option Frame
  | read chain => some (pending chain c)
  | _ => none

/-- The chain that is being read, and those around it, the innermost first. -/
structure State where
  /-- The chains around the one that is being read. -/
  outer : List Frame
  /-- The chain that is being read. -/
  frame : Frame

/-- Before the first token. -/
def State.start : State := ⟨[], .empty⟩

/-- Takes a term into the chain that is being read. -/
def State.push (st : State) (t : Term) : Option State :=
  (st.frame.push t).map fun frame => ⟨st.outer, frame⟩

/-- Takes a token. -/
def step (st : State) : Token → Option State
  | .opening => some ⟨st.frame :: st.outer, .empty⟩
  | .closing =>
    match st.outer, st.frame with
    | frame :: outer, .read chain => State.push ⟨outer, frame⟩ chain.group
    | _, _ => none
  | .connective c => (st.frame.connect c).map fun frame => ⟨st.outer, frame⟩
  | .atom text => st.push (.atom (String.ofList text))

/-- The chain that has been read, if no parenthesis is open. -/
def State.chain? : State → Option Chain
  | ⟨[], .read chain⟩ => some chain
  | _ => none

/-- The syntax tree of a text. -/
def parse (s : String) : Option Chain := ((lex s.toList).foldlM step .start).bind State.chain?

/-! ## Reading back -/

@[simp] theorem step_closing (outer : List Frame) (frame : Frame) (chain : Chain) :
    step ⟨frame :: outer, .read chain⟩ .closing = State.push ⟨outer, frame⟩ chain.group := rfl

@[simp] theorem step_connective (outer : List Frame) (chain : Chain) (c : Connective) :
    step ⟨outer, .read chain⟩ (.connective c) = some ⟨outer, .pending chain c⟩ := rfl

@[simp] theorem push_empty (outer : List Frame) (t : Term) :
    State.push ⟨outer, .empty⟩ t = some ⟨outer, .read ⟨t, []⟩⟩ := rfl

@[simp] theorem push_pending (outer : List Frame) (chain : Chain) (c : Connective) (t : Term) :
    State.push ⟨outer, .pending chain c⟩ t = some ⟨outer, .read (chain.snoc c t)⟩ := rfl

mutual

/-- The tokens of a term are taken like the term itself. -/
theorem run_tokens : (t : Term) → ∀ (st : State) (more : List Token),
    (t.tokens ++ more).foldlM step st = (st.push t).bind fun st' => more.foldlM step st'
  | .atom text, st, more => by
      have hatom : step st (.atom text.toList) = st.push (.atom text) := by
        rw [step, String.ofList_toList]
      rw [Term.tokens, List.cons_append, List.nil_append, List.foldlM_cons, hatom]
      rfl
  | .group first rest, st, more => by
      -- the terms inside are read into a new frame, and the old one waits for the group
      have hopen : step st .opening = some ⟨st.frame :: st.outer, .empty⟩ := rfl
      rw [Term.tokens, List.cons_append, List.foldlM_cons, hopen]
      simp only [Option.bind_eq_bind, Option.bind_some, List.append_assoc]
      rw [run_tokens first, push_empty, Option.bind_some, run_restTokens rest, List.cons_append,
        List.nil_append, List.foldlM_cons, step_closing]
      rfl

/-- The tokens of the terms after the first are taken like the terms. -/
theorem run_restTokens : (l : List (Connective × Term)) → ∀ (outer : List Frame) (chain : Chain)
    (more : List Token), (restTokens l ++ more).foldlM step ⟨outer, .read chain⟩ =
      more.foldlM step ⟨outer, .read ⟨chain.first, chain.rest ++ l⟩⟩
  | [], outer, chain, more => by
      rw [restTokens, List.nil_append, List.append_nil]
  | (c, t) :: l, outer, chain, more => by
      rw [restTokens, List.cons_append, List.foldlM_cons, step_connective, List.append_assoc]
      simp only [Option.bind_eq_bind, Option.bind_some]
      rw [run_tokens t, push_pending, Option.bind_some, run_restTokens l]
      simp only [Chain.snoc, List.append_assoc, List.cons_append, List.nil_append]

end

/-- **A syntax tree is read back from its text.** -/
theorem parse_text (chain : Chain) (h : ∀ a ∈ chain.atoms, IsAtom a) :
    parse chain.text = some chain := by
  rw [Chain.atoms, List.forall_mem_append] at h
  have hrest : lex (restChars chain.rest) = restTokens chain.rest := by
    simpa [lex] using lex_restChars chain.rest h.2 .nil
  have hlex : lex chain.chars = chain.first.tokens ++ (restTokens chain.rest ++ []) := by
    have hfirst := lex_chars chain.first h.1 (stops_restChars chain.rest .nil)
    rw [List.append_nil, hrest] at hfirst
    rw [Chain.chars, hfirst, List.append_nil]
  rw [parse, toList_text, hlex, run_tokens, State.start, push_empty, Option.bind_some,
    run_restTokens]
  rfl

end CollectionSearch.Expression
