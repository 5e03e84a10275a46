import CollectionSearch.Filter.Expression

/-!
# The syntax of filter expressions

A filter expression is a chain: terms with a connective between each two. A term is an atom or a
chain in parentheses. The syntax does not say which connective binds tighter, that is left to
whoever reads a chain.

* `Connective`, `Term`, `Chain` : the syntax trees, with `Chain.text` as their text.
* `Token`, `lex` : the parts of a text. Every text without a parenthesis or a connective is an atom.
* `Unstructured`, `IsAtom` : the texts that can stand in an atom and as one.

**Main statements:** `text_joined` says how joined terms are written, and `lex_chars` that the text
of a term is cut into the tokens of the term.
-/

namespace CollectionSearch.Expression

/-! ## Syntax trees -/

/-- What stands between two terms. -/
inductive Connective where
  | and
  | or
  deriving DecidableEq

/-- The text of a connective, with the blanks around it. -/
def Connective.symbol : Connective → String
  | and => " && "
  | or => " || "

/-- A part of an expression. -/
inductive Term where
  /-- A single comparison, as it is written. -/
  | atom (text : String)
  /-- A chain in parentheses. -/
  | group (first : Term) (rest : List (Connective × Term))

/-- A whole expression: its first term, and the others with what stands before them. -/
structure Chain where
  /-- The first term. -/
  first : Term
  /-- The other terms. -/
  rest : List (Connective × Term)

/-- The chain in parentheses. -/
def Chain.group (chain : Chain) : Term := .group chain.first chain.rest

/-- The terms with one connective between each two. -/
def Chain.joined (c : Connective) (first : Term) (others : List Term) : Chain :=
  ⟨first, others.map fun t => (c, t)⟩

mutual

/-- The characters of a term. -/
def Term.chars : Term → List Char
  | .atom text => text.toList
  | .group first rest => '(' :: (first.chars ++ (restChars rest ++ [')']))

/-- The characters of the terms after the first. -/
def restChars : List (Connective × Term) → List Char
  | [] => []
  | (c, t) :: rest => c.symbol.toList ++ (t.chars ++ restChars rest)

end

/-- The characters of an expression. -/
def Chain.chars (chain : Chain) : List Char := chain.first.chars ++ restChars chain.rest

/-- The text of a term. -/
def Term.text (t : Term) : String := String.ofList t.chars

/-- The text of an expression. -/
def Chain.text (chain : Chain) : String := String.ofList chain.chars

@[simp] theorem toList_text (chain : Chain) : chain.text.toList = chain.chars :=
  String.toList_ofList

@[simp] theorem text_atom (s : String) : (Term.atom s).text = s := String.ofList_toList

mutual

/-- The atoms of a term, in order. -/
def Term.atoms : Term → List String
  | .atom text => [text]
  | .group first rest => first.atoms ++ restAtoms rest

/-- The atoms of the terms after the first, in order. -/
def restAtoms : List (Connective × Term) → List String
  | [] => []
  | (_, t) :: rest => t.atoms ++ restAtoms rest

end

/-- The atoms of an expression, in order. -/
def Chain.atoms (chain : Chain) : List String := chain.first.atoms ++ restAtoms chain.rest

/-- The atoms of joined terms are those of the terms. -/
theorem atoms_joined (c : Connective) (first : Term) (others : List Term) :
    (Chain.joined c first others).atoms = (first :: others).flatMap Term.atoms := by
  induction others generalizing first with
  | nil => simp [Chain.joined, Chain.atoms, restAtoms]
  | cons t rest ih =>
      have htail : restAtoms (Chain.joined c first (t :: rest)).rest =
          (Chain.joined c t rest).atoms := rfl
      rw [Chain.atoms, htail, ih t, List.flatMap_cons (x := first)]
      rfl

/-- The atoms of joined terms that are made from a list, in its order. -/
theorem atoms_joined_map {α : Type} (c : Connective) (f : α → Term) (a : α) (l : List α) :
    (Chain.joined c (f a) (l.map f)).atoms = (a :: l).flatMap fun x => (f x).atoms := by
  rw [atoms_joined, ← List.map_cons, List.flatMap_map]

/-- The atoms of a chain in parentheses are its own. -/
theorem atoms_group (chain : Chain) : chain.group.atoms = chain.atoms := by
  rw [Chain.group, Term.atoms, Chain.atoms]

/-- Joined terms are written with the symbol between each two. -/
theorem chars_joined (c : Connective) (first : Term) (others : List Term) :
    (Chain.joined c first others).chars =
      c.symbol.toList.intercalate ((first :: others).map Term.chars) := by
  induction others generalizing first with
  | nil => simp [Chain.joined, Chain.chars, restChars]
  | cons t rest ih =>
      have htail : restChars (Chain.joined c first (t :: rest)).rest =
          c.symbol.toList ++ (Chain.joined c t rest).chars := rfl
      rw [Chain.chars, htail, ih t, List.map_cons, List.map_cons, List.map_cons,
        List.intercalate_cons_cons, List.append_assoc]
      rfl

/-- The text of joined terms is made of theirs. -/
theorem text_joined (c : Connective) (first : Term) (others : List Term) :
    (Chain.joined c first others).text =
      c.symbol.intercalate ((first :: others).map Term.text) := by
  have htext : String.toList ∘ Term.text = Term.chars := funext fun t => String.toList_ofList
  rw [← String.toList_inj, toList_text, chars_joined, String.toList_intercalate, List.map_map,
    htext]

/-- The text of joined terms in parentheses. -/
theorem text_group_joined (c : Connective) (first : Term) (others : List Term) :
    (Chain.joined c first others).group.text =
      "(" ++ c.symbol.intercalate ((first :: others).map Term.text) ++ ")" := by
  rw [← text_joined, ← String.toList_inj, String.toList_append, String.toList_append, toList_text,
    Term.text, String.toList_ofList]
  simp [Chain.group, Chain.chars, Term.chars]

/-! ## Tokens -/

/-- A part of a text. -/
inductive Token where
  | opening
  | closing
  | connective (c : Connective)
  | atom (text : List Char)
  deriving DecidableEq

/-- Puts a character in front of an atom, or makes it one. -/
def consChar (c : Char) : List Token → List Token
  | .atom text :: rest => .atom (c :: text) :: rest
  | tokens => .atom [c] :: tokens

/-- The tokens of a text. -/
def lex : List Char → List Token
  | [] => []
  | '(' :: cs => .opening :: lex cs
  | ')' :: cs => .closing :: lex cs
  | ' ' :: '&' :: '&' :: ' ' :: cs => .connective .and :: lex cs
  | ' ' :: '|' :: '|' :: ' ' :: cs => .connective .or :: lex cs
  | c :: cs => consChar c (lex cs)

mutual

/-- The tokens of a term. -/
def Term.tokens : Term → List Token
  | .atom text => [.atom text.toList]
  | .group first rest => .opening :: (first.tokens ++ (restTokens rest ++ [.closing]))

/-- The tokens of the terms after the first. -/
def restTokens : List (Connective × Term) → List Token
  | [] => []
  | (c, t) :: rest => .connective c :: (t.tokens ++ restTokens rest)

end

/-- The characters that parentheses and connectives are made of. -/
def structural : List Char := ['(', ')', '&', '|']

/-- Whether a text has no structural character. -/
def Unstructured (s : String) : Prop := ∀ c ∈ s.toList, c ∉ structural

/-- Whether a text can stand as an atom: it is not empty and has no structural character. -/
def IsAtom (s : String) : Prop := s ≠ "" ∧ Unstructured s

instance (s : String) : Decidable (Unstructured s) := List.decidableBAll _ s.toList

instance (s : String) : Decidable (IsAtom s) := by unfold IsAtom; infer_instance

/-- Where an atom may end: at the end of the text, before a closing parenthesis and before a
connective. -/
inductive Stops : List Char → Prop where
  | nil : Stops []
  | closing (cs : List Char) : Stops (')' :: cs)
  | connective (c : Connective) (cs : List Char) : Stops (c.symbol.toList ++ cs)

/-- Where an atom may end the next token is no atom. -/
theorem Stops.consChar_lex {rest : List Char} (h : Stops rest) (c : Char) :
    consChar c (lex rest) = .atom [c] :: lex rest := by
  cases h with
  | nil => rfl
  | closing cs => rfl
  | connective k cs => cases k <;> rfl

/-- A character that is not structural belongs to an atom, unless it is the blank that a connective
begins with. -/
theorem lex_cons {c : Char} {cs : List Char} (hc : c ∉ structural)
    (hcs : ∀ d ∈ cs.head?, d ≠ '&' ∧ d ≠ '|') : lex (c :: cs) = consChar c (lex cs) := by
  rw [lex]
  · rintro rfl
    exact hc (by decide)
  · rintro rfl
    exact hc (by decide)
  · rintro _ - rfl
    exact (hcs '&' rfl).1 rfl
  · rintro _ - rfl
    exact (hcs '|' rfl).2 rfl

/-- Where an atom may end no connective goes on. -/
theorem Stops.head?_ne {rest : List Char} (h : Stops rest) :
    ∀ d ∈ rest.head?, d ≠ '&' ∧ d ≠ '|' := by
  rintro d hd
  cases h with
  | nil => exact absurd hd (Option.not_mem_none d)
  | closing cs =>
      rw [← Option.some.inj hd]
      decide
  | connective k cs =>
      have hblank : d = ' ' := by
        cases k <;> exact (Option.some.inj hd).symm
      rw [hblank]
      decide

/-- A text is cut off as one atom where it may end. -/
theorem lex_atom : (c : Char) → (cs : List Char) → (∀ d ∈ c :: cs, d ∉ structural) →
    ∀ {rest : List Char}, Stops rest → lex (c :: cs ++ rest) = .atom (c :: cs) :: lex rest
  | c, [], h, rest, hr => by
      rw [List.cons_append, List.nil_append, lex_cons (h c List.mem_cons_self) hr.head?_ne,
        hr.consChar_lex]
  | c, d :: cs, h, rest, hr => by
      have hd : d ∉ structural := h d (List.mem_cons_of_mem _ List.mem_cons_self)
      have hhead : ∀ e ∈ (d :: cs ++ rest).head?, e ≠ '&' ∧ e ≠ '|' := by
        intro e he
        obtain rfl : d = e := by simpa using he
        exact ⟨fun hde => hd (by simp [hde, structural]), fun hde => hd (by simp [hde, structural])⟩
      have ih := lex_atom d cs (fun e he => h e (List.mem_cons_of_mem _ he)) hr
      rw [List.cons_append, lex_cons (h c List.mem_cons_self) hhead, ih]
      rfl

/-- The terms after the first end the atom before them. -/
theorem stops_restChars (l : List (Connective × Term)) {rest : List Char} (h : Stops rest) :
    Stops (restChars l ++ rest) := by
  cases l with
  | nil => exact h
  | cons e l =>
      rw [restChars, List.append_assoc]
      exact .connective e.1 _

mutual

/-- The text of a term is cut into its tokens. -/
theorem lex_chars : (t : Term) → (∀ a ∈ t.atoms, IsAtom a) → ∀ {rest : List Char}, Stops rest →
    lex (t.chars ++ rest) = t.tokens ++ lex rest
  | .atom text, h, rest, hr => by
      obtain ⟨hne, hplain⟩ := h text (by rw [Term.atoms]; exact List.mem_cons_self)
      rcases hcs : text.toList with _ | ⟨c, cs⟩
      · exact absurd (String.toList_eq_nil_iff.mp hcs) hne
      · rw [Term.chars, Term.tokens, hcs, lex_atom c cs (hcs ▸ hplain) hr]
        rfl
  | .group first more, h, rest, hr => by
      -- what follows the terms inside is the closing parenthesis, so that the last atom may end
      rw [Term.atoms, List.forall_mem_append] at h
      have hclose : Stops (')' :: rest) := .closing rest
      have hbody := lex_chars first h.1 (stops_restChars more hclose)
      rw [lex_restChars more h.2 hclose] at hbody
      simp only [Term.chars, Term.tokens, List.cons_append, List.append_assoc, List.nil_append,
        lex, hbody]

/-- The text of the terms after the first is cut into their tokens. -/
theorem lex_restChars : (l : List (Connective × Term)) → (∀ a ∈ restAtoms l, IsAtom a) →
    ∀ {rest : List Char}, Stops rest → lex (restChars l ++ rest) = restTokens l ++ lex rest
  | [], _, _, _ => rfl
  | (c, t) :: l, h, rest, hr => by
      rw [restAtoms, List.forall_mem_append] at h
      have ht := lex_chars t h.1 (stops_restChars l hr)
      rw [lex_restChars l h.2 hr] at ht
      cases c <;>
        simp [restChars, restTokens, Connective.symbol, lex, ht]

end

end CollectionSearch.Expression
