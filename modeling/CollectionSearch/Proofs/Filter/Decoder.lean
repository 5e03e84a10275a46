import CollectionSearch.Proofs.Filter.NormalForm

/-!
# Reading filter expressions

A reader of filter expressions, and what it reads. The reader parses the text and reads every atom:
the first colon ends the field, the longest operator that fits stands after it, and the rest is a
value or a list of values in brackets. Parentheses around comparisons with `&&` between them are a
group, other parentheses hold alternatives.

* `FilterOperator.read?`, `OperandText.read?`, `Comparison.read?` : the parts of an atom.
* `Conjunction.ofTerm?`, `Condition.ofTerm?`, `Clause.ofTerm?` : the terms of an expression.
* `readClauses` : the reader.
* `FilterOperator.asRead`, `OperandText.asRead`, `Comparison.asRead` : a comparison as it is read. A
  value can go on like the operator in front of it, and brackets around the empty text hold nothing.
* `Filter.Undelimited` : whether a filter holds no delimiters.

**Main statements:** `read_expression` says that the expression of a filter without delimiters is
read as its normal form with the comparisons `asRead`, `text_asRead` that this changes no text.
-/

namespace CollectionSearch

open Expression

/-! ## Operators -/

/-- The operators, those with the longer texts first. -/
def FilterOperator.longestFirst : List FilterOperator := [neq, gte, lte, eq, gt, lt, contains]

/-- The longest operator that a text begins with, and what follows it. -/
def FilterOperator.read? (cs : List Char) : Option (FilterOperator × List Char) :=
  (longestFirst.find? fun op => op.token.toList.isPrefixOf cs).map fun op =>
    (op, cs.drop op.token.toList.length)

/-- No operator stands before a longer one. -/
example : FilterOperator.longestFirst.Pairwise fun a b => b.token.length ≤ a.token.length := by
  decide

/-- The longest operator that an operator and the text after it begin with, and what follows. -/
def FilterOperator.asRead : FilterOperator → List Char → FilterOperator × List Char
  | contains, '!' :: '=' :: cs => (neq, cs)
  | contains, '>' :: '=' :: cs => (gte, cs)
  | contains, '<' :: '=' :: cs => (lte, cs)
  | contains, '=' :: cs => (eq, cs)
  | contains, '>' :: cs => (gt, cs)
  | contains, '<' :: cs => (lt, cs)
  | gt, '=' :: cs => (gte, cs)
  | lt, '=' :: cs => (lte, cs)
  | op, cs => (op, cs)

/-- Reading an operator changes no character. -/
theorem FilterOperator.token_asRead (op : FilterOperator) (cs : List Char) :
    (op.asRead cs).1.token.toList ++ (op.asRead cs).2 = op.token.toList ++ cs := by
  unfold asRead
  split
  case h_9 => rfl
  all_goals simp [token]

/-- What is left after the operator is an end of what was there. -/
theorem FilterOperator.asRead_suffix (op : FilterOperator) (cs : List Char) :
    (op.asRead cs).2 <:+ cs := by
  unfold asRead
  split
  case h_9 => exact List.suffix_refl cs
  all_goals simp only [List.suffix_cons_iff, List.suffix_refl, or_true]

/-- The characters that operators go on with after the colon. -/
def operatorCharacters : List Char := ['=', '!', '<', '>']

/-- A text that does not go on like an operator is left as it is. -/
theorem FilterOperator.asRead_of_not_mem (op : FilterOperator) {cs : List Char}
    (h : ∀ c ∈ cs.head?, c ∉ operatorCharacters) : op.asRead cs = (op, cs) := by
  unfold asRead
  split
  case h_9 => rfl
  all_goals exact absurd (by decide) (h _ rfl)

/-- A text is not a beginning of another that does not go on from it. -/
theorem isPrefixOf_eq_false {cs ds : List Char} (h : ∀ rest, ds = cs ++ rest → False) :
    cs.isPrefixOf ds = false := by
  rw [← Bool.not_eq_true, List.isPrefixOf_iff_prefix]
  rintro ⟨rest, rfl⟩
  exact h rest rfl

/-- The longest operator is the one that is read. -/
theorem FilterOperator.read?_token_append (op : FilterOperator) (cs : List Char) :
    FilterOperator.read? (op.token.toList ++ cs) = some (op.asRead cs) := by
  unfold asRead
  split
  case h_5 rest heq =>
    have hlonger : ['='].isPrefixOf rest = false := isPrefixOf_eq_false heq
    simp [read?, longestFirst, token, List.isPrefixOf, hlonger]
  case h_6 rest heq =>
    have hlonger : ['='].isPrefixOf rest = false := isPrefixOf_eq_false heq
    simp [read?, longestFirst, token, List.isPrefixOf, hlonger]
  case h_9 hneq hgte hlte heq hgt hlt hgt_eq hlt_eq =>
    -- no longer operator fits, each for the reason that its row of the table does not
    cases op with
    | contains =>
        have hneq : ['!', '='].isPrefixOf cs = false := isPrefixOf_eq_false fun t => hneq t rfl
        have hgte : ['>', '='].isPrefixOf cs = false := isPrefixOf_eq_false fun t => hgte t rfl
        have hlte : ['<', '='].isPrefixOf cs = false := isPrefixOf_eq_false fun t => hlte t rfl
        have heq : ['='].isPrefixOf cs = false := isPrefixOf_eq_false fun t => heq t rfl
        have hgt : ['>'].isPrefixOf cs = false := isPrefixOf_eq_false fun t => hgt t rfl
        have hlt : ['<'].isPrefixOf cs = false := isPrefixOf_eq_false fun t => hlt t rfl
        simp [read?, longestFirst, token, List.isPrefixOf, hneq, hgte, hlte, heq, hgt, hlt]
    | gt =>
        have heq : ['='].isPrefixOf cs = false := isPrefixOf_eq_false fun t => hgt_eq t rfl
        simp [read?, longestFirst, token, List.isPrefixOf, heq]
    | lt =>
        have heq : ['='].isPrefixOf cs = false := isPrefixOf_eq_false fun t => hlt_eq t rfl
        simp [read?, longestFirst, token, List.isPrefixOf, heq]
    | _ => simp [read?, longestFirst, token, List.isPrefixOf]
  all_goals simp [read?, longestFirst, token, List.isPrefixOf]

/-! ## Operands and comparisons -/

/-- The operand that a text is: a list if it stands in brackets, else a single value. -/
def OperandText.read? : List Char → Option OperandText
  | '[' :: cs =>
    if cs.getLast? = some ']' then
      some (.many (if cs.dropLast = [] then [] else Text.split ',' (String.ofList cs.dropLast)))
    else none
  | cs => some (.one (String.ofList cs))

/-- The comparison that an atom is, if it is about the field. -/
def Comparison.read? (field : String) (s : String) : Option Comparison := do
  if Text.beforeFirst ':' s ≠ field then none
  let (op, cs) ← FilterOperator.read? (s.toList.dropWhile fun c => c ≠ ':')
  return ⟨op, ← OperandText.read? cs⟩

/-- An operand as it is read: nothing in brackets is no value. -/
def OperandText.asRead : OperandText → OperandText
  | one value => .one value
  | many values => if values = [""] then .many [] else .many values

/-- A comparison as it is read: by the longest operator. -/
def Comparison.asRead (a : Comparison) : Comparison :=
  match a.operand with
  | .one value =>
    let (op, cs) := a.operator.asRead value.toList
    ⟨op, .one (String.ofList cs)⟩
  | .many values => ⟨a.operator, (OperandText.many values).asRead⟩

/-- Whether an operand holds no delimiters. -/
def OperandText.Undelimited (o : OperandText) : Prop := ∀ s ∈ o.values, hasDelimiter s = false

/-- The text of a number holds no delimiters. -/
theorem Numeric.hasDelimiter_eq_false {s : String} (h : Numeric s) : hasDelimiter s = false := by
  refine List.any_eq_false.mpr fun c hc hmem => ?_
  exact h.not_mem (by decide) c hc (List.contains_iff_mem.mp hmem)

/-- A text without delimiters holds none of them. -/
theorem not_mem_delimiters {s : String} (h : hasDelimiter s = false) :
    ∀ c ∈ s.toList, c ∉ delimiters := by
  intro c hc hmem
  have hany : hasDelimiter s = true := List.any_eq_true.mpr ⟨c, hc, List.contains_iff_mem.mpr hmem⟩
  exact Bool.false_ne_true (h.symm.trans hany)

/-- A text that does not begin with a bracket is read as a single value. -/
theorem OperandText.read?_of_ne_bracket {cs : List Char} (h : '[' ∉ cs.head?) :
    OperandText.read? cs = some (.one (String.ofList cs)) := by
  rw [read?]
  rintro rest rfl
  exact h rfl

/-- A list without delimiters is read back from its text, apart from that of the empty text. -/
theorem OperandText.read?_text_many {values : List String}
    (h : (OperandText.many values).Undelimited) :
    OperandText.read? (OperandText.many values).text.toList =
      some (OperandText.many values).asRead := by
  have hcomma : ∀ s ∈ values, ',' ∉ s.toList := fun s hs hmem =>
    not_mem_delimiters (h s hs) ',' hmem (by decide)
  have htext : (OperandText.many values).text.toList =
      '[' :: ((",".intercalate values).toList ++ [']']) := by
    rw [OperandText.text, String.toList_append, String.toList_append]
    rfl
  rw [htext, read?, if_pos List.getLast?_concat, List.dropLast_concat, String.ofList_toList]
  rcases values with _ | ⟨s, rest⟩
  · rfl
  · have hempty : ",".intercalate (s :: rest) = "" ↔ s :: rest = [""] := by
      rw [Text.intercalate_cons_eq_empty_iff (by decide), List.cons.injEq]
    rw [Text.split_intercalate_of_not_mem rfl (List.cons_ne_nil s rest) hcomma, asRead]
    simp only [String.toList_eq_nil_iff, hempty]
    split <;> rfl

/-- The text of a list is that of the list as it is read. -/
theorem OperandText.text_asRead (o : OperandText) : o.asRead.text = o.text := by
  cases o with
  | one value => rfl
  | many values =>
      rw [asRead]
      split
      · rename_i hvalues
        rw [hvalues]
        rfl
      · rfl

/-- A comparison is written as the one that is read. -/
theorem Comparison.text_asRead (field : String) (a : Comparison) :
    a.asRead.text field = a.text field := by
  rcases a with ⟨op, value | values⟩
  · have htoken : (op.asRead value.toList).1.token ++ String.ofList (op.asRead value.toList).2 =
        op.token ++ value := by
      rw [← String.toList_inj, String.toList_append, String.toList_append, String.toList_ofList]
      exact op.token_asRead value.toList
    unfold text asRead
    rw [String.append_assoc, String.append_assoc]
    exact congrArg (field ++ ·) htoken
  · unfold text asRead
    rw [OperandText.text_asRead]

section text

variable {field : String} (hfield : hasDelimiter field = false) (a : Comparison)

/-- What follows the field in a comparison begins with a colon. -/
theorem Comparison.head?_text :
    (a.operator.token ++ a.operand.text).toList.head? = some ':' := by
  rw [String.toList_append]
  cases a.operator <;> rfl

include hfield

/-- The field ends at the first colon. -/
theorem Comparison.beforeFirst_text : Text.beforeFirst ':' (a.text field) = field := by
  have hcolon : ':' ∉ field.toList := fun hmem => not_mem_delimiters hfield ':' hmem (by decide)
  rw [text, String.append_assoc, Text.beforeFirst_append hcolon a.head?_text]

/-- The operator begins at the first colon. -/
theorem Comparison.dropWhile_text :
    (a.text field).toList.dropWhile (fun c => c ≠ ':') =
      a.operator.token.toList ++ a.operand.text.toList := by
  have hcolon : ':' ∉ field.toList := fun hmem => not_mem_delimiters hfield ':' hmem (by decide)
  rw [text, String.append_assoc, Text.dropWhile_append hcolon a.head?_text, String.toList_append]

/-- A comparison without delimiters is read from its text. -/
theorem Comparison.read?_text {a : Comparison} (ha : a.operand.Undelimited) :
    Comparison.read? field (a.text field) = some a.asRead := by
  rw [read?, a.beforeFirst_text hfield, a.dropWhile_text hfield,
    FilterOperator.read?_token_append]
  rcases a with ⟨op, value | values⟩
  · -- what is left of the value holds no bracket either
    have hbracket : '[' ∉ (op.asRead value.toList).2.head? := by
      intro hmem
      have hvalue : '[' ∈ value.toList :=
        (op.asRead_suffix value.toList).subset (List.mem_of_mem_head? hmem)
      exact not_mem_delimiters (ha value List.mem_cons_self) '[' hvalue (by decide)
    simp [asRead, OperandText.text, OperandText.read?_of_ne_bracket hbracket]
  · have hhead : ∀ c ∈ (OperandText.many values).text.toList.head?, c ∉ operatorCharacters := by
      intro c hc
      rw [OperandText.text, String.toList_append, String.toList_append] at hc
      rw [← Option.some.inj hc]
      decide
    rw [op.asRead_of_not_mem hhead]
    simp [asRead, OperandText.read?_text_many ha]

end text

/-! ## Terms -/

/-- The terms after the first, if the connective stands before each of them. -/
def othersBy? (c : Connective) (rest : List (Connective × Term)) : Option (List Term) :=
  rest.mapM fun e => if e.1 = c then some e.2 else none

/-- The comparison that a term is. -/
def Comparison.ofTerm? (field : String) : Term → Option Comparison
  | .atom s => Comparison.read? field s
  | .group _ _ => none

/-- The group that a term is: a comparison, or several of them in parentheses. -/
def Conjunction.ofTerm? (field : String) : Term → Option Conjunction
  | .atom s => (Comparison.read? field s).map fun a => ⟨a, []⟩
  | .group _ [] => none
  | .group first (e :: rest) => do
    let a ← Comparison.ofTerm? field first
    let others ← othersBy? .and (e :: rest)
    return ⟨a, ← others.mapM (Comparison.ofTerm? field)⟩

/-- The condition that a term is: alternatives if it has parentheses without `&&` in them, else a
group. -/
def Condition.ofTerm? (field : String) : Term → Option Condition
  | .atom s => (Conjunction.ofTerm? field (.atom s)).map .all
  | .group first ((.and, t) :: rest) =>
    (Conjunction.ofTerm? field (.group first ((.and, t) :: rest))).map .all
  | .group first rest => do
    let g ← Conjunction.ofTerm? field first
    let others ← othersBy? .or rest
    return .any g (← others.mapM (Conjunction.ofTerm? field))

/-- The clause that a term is, about the field that its first atom begins with. -/
def Clause.ofTerm? (t : Term) : Option Clause := do
  let s ← t.atoms.head?
  let condition ← Condition.ofTerm? (Text.beforeFirst ':' s) t
  return ⟨Text.beforeFirst ':' s, condition⟩

/-- A group as it is read. -/
def Conjunction.asRead (g : Conjunction) : Conjunction :=
  ⟨g.first.asRead, g.others.map Comparison.asRead⟩

/-- A condition as it is read. -/
def Condition.asRead : Condition → Condition
  | all g => .all g.asRead
  | any g gs => .any g.asRead (gs.map Conjunction.asRead)

/-- A clause as it is read. -/
def Clause.asRead (k : Clause) : Clause := ⟨k.field, k.condition.asRead⟩

/-- The terms after the first are found again. -/
theorem othersBy?_map (c : Connective) (others : List Term) :
    othersBy? c (others.map fun t => (c, t)) = some others := by
  have hothers : othersBy? c (others.map fun t => (c, t)) = some (others.map id) :=
    mapM_map_of_forall fun _ _ => if_pos rfl
  rwa [List.map_id] at hothers

section ofTerm

variable {field : String} (hfield : hasDelimiter field = false)

include hfield

/-- A group is read from its syntax tree. -/
theorem Conjunction.ofTerm?_term {g : Conjunction}
    (hg : ∀ a ∈ g.comparisons, a.operand.Undelimited) :
    Conjunction.ofTerm? field (g.term field) = some g.asRead := by
  have hread : ∀ a ∈ g.comparisons,
      Comparison.read? field (a.text field) = some a.asRead := fun a ha =>
    Comparison.read?_text hfield (hg a ha)
  rcases g with ⟨a, _ | ⟨b, rest⟩⟩
  · rw [term, Comparison.term, ofTerm?, hread a List.mem_cons_self]
    rfl
  · have hfirst : Comparison.ofTerm? field (a.term field) = some a.asRead :=
      hread a List.mem_cons_self
    have hothers : ((b :: rest).map (Comparison.term field)).mapM (Comparison.ofTerm? field) =
        some ((b :: rest).map Comparison.asRead) :=
      mapM_map_of_forall fun d hd => hread d (List.mem_cons_of_mem a hd)
    have hand := othersBy?_map .and ((b :: rest).map (Comparison.term field))
    rw [List.map_cons, List.map_cons] at hand
    rw [term, Chain.group, Chain.joined, List.map_cons, List.map_cons, ofTerm?, hfirst, hand,
      ← List.map_cons]
    simp only [Option.bind_eq_bind, Option.bind_some, hothers]
    rfl

/-- A condition is read from its syntax tree. -/
theorem Condition.ofTerm?_term {c : Condition}
    (hc : ∀ a ∈ c.comparisons, a.operand.Undelimited) :
    Condition.ofTerm? field (c.term field) = some c.asRead := by
  cases c with
  | all g =>
      -- a group with parentheses has `&&` in them, so it is not taken for alternatives
      have hread : Conjunction.ofTerm? field (g.term field) = some g.asRead :=
        Conjunction.ofTerm?_term hfield hc
      rcases g with ⟨a, _ | ⟨b, rest⟩⟩ <;> exact congrArg (Option.map all) hread
  | any g gs =>
      have hread : ∀ h ∈ g :: gs, Conjunction.ofTerm? field (h.term field) = some h.asRead :=
        fun h hh => Conjunction.ofTerm?_term hfield fun a ha =>
          hc a (List.mem_flatMap.mpr ⟨h, hh, ha⟩)
      have hothers : (gs.map (Conjunction.term field)).mapM (Conjunction.ofTerm? field) =
          some (gs.map Conjunction.asRead) :=
        mapM_map_of_forall fun h hh => hread h (List.mem_cons_of_mem g hh)
      have hor := othersBy?_map .or (gs.map (Conjunction.term field))
      -- what follows the first alternative is `||` or nothing
      have halternatives : Condition.ofTerm? field ((any g gs).term field) =
          (Conjunction.ofTerm? field (g.term field)).bind fun first =>
            (othersBy? .or ((gs.map (Conjunction.term field)).map fun t => (.or, t))).bind
              fun others => (others.mapM (Conjunction.ofTerm? field)).bind fun rest =>
                some (any first rest) := by
        cases gs <;> rfl
      rw [halternatives, hread g List.mem_cons_self, Option.bind_some, hor, Option.bind_some,
        hothers]
      rfl

/-- A clause is read from its syntax tree. -/
theorem Clause.ofTerm?_term {c : Condition} (hc : ∀ a ∈ c.comparisons, a.operand.Undelimited) :
    Clause.ofTerm? (Clause.mk field c).term = some (Clause.mk field c).asRead := by
  obtain ⟨a, rest, ha⟩ : ∃ a rest, c.comparisons = a :: rest := by
    cases c <;> exact ⟨_, _, rfl⟩
  have hhead : (Clause.mk field c).term.atoms.head? = some (a.text field) := by
    rw [term, Condition.atoms_term, ha]
    rfl
  have hread : Condition.ofTerm? field (Clause.mk field c).term = some c.asRead :=
    Condition.ofTerm?_term hfield hc
  simp only [ofTerm?, hhead, Option.bind_eq_bind, Option.bind_some, a.beforeFirst_text hfield,
    hread]
  rfl

end ofTerm

/-! ## What is read -/

/-- A group is read as it is when its comparisons are. -/
theorem Conjunction.asRead_eq_self {g : Conjunction} (h : ∀ a ∈ g.comparisons, a.asRead = a) :
    g.asRead = g := by
  have hothers : g.others.map Comparison.asRead = g.others :=
    (List.map_congr_left fun a ha => h a (List.mem_cons_of_mem g.first ha)).trans (List.map_id _)
  rw [asRead, h g.first List.mem_cons_self, hothers]

/-- A condition is read as it is when its comparisons are. -/
theorem Condition.asRead_eq_self {c : Condition} (h : ∀ a ∈ c.comparisons, a.asRead = a) :
    c.asRead = c := by
  cases c with
  | all g => exact congrArg all (Conjunction.asRead_eq_self h)
  | any g gs =>
      have hgroup : ∀ d ∈ g :: gs, d.asRead = d := fun d hd =>
        Conjunction.asRead_eq_self fun a ha => h a (List.mem_flatMap.mpr ⟨d, hd, ha⟩)
      have hothers : gs.map Conjunction.asRead = gs :=
        (List.map_congr_left fun d hd => hgroup d (List.mem_cons_of_mem g hd)).trans (List.map_id _)
      rw [asRead, hgroup g List.mem_cons_self, hothers]

/-- The comparisons of a group are read one by one. -/
theorem Conjunction.comparisons_asRead (g : Conjunction) :
    g.asRead.comparisons = g.comparisons.map Comparison.asRead := rfl

/-- A group is written as the one that is read. -/
theorem Conjunction.text_asRead (field : String) (g : Conjunction) :
    (g.asRead.term field).text = (g.term field).text := by
  have htext : Comparison.text field ∘ Comparison.asRead = Comparison.text field :=
    funext fun a => a.text_asRead field
  rw [text_term, text_term, comparisons_asRead, List.map_map, htext]

/-- A clause is written as the one that is read. -/
theorem Clause.text_asRead (k : Clause) : k.asRead.term.text = k.term.text := by
  rcases k with ⟨field, g | ⟨g, gs⟩⟩
  · exact g.text_asRead field
  · have htext : Term.text ∘ Conjunction.term field ∘ Conjunction.asRead =
        Term.text ∘ Conjunction.term field := funext fun g => g.text_asRead field
    show (Condition.term field (.any g.asRead (gs.map Conjunction.asRead))).text =
      (Condition.term field (.any g gs)).text
    simp only [Condition.term, text_group_joined, List.map_cons, List.map_map, htext,
      g.text_asRead field]

/-! ## Expressions -/

/-- Reads a filter expression. The empty text has no clauses. -/
def readClauses (s : String) : Option (List Clause) :=
  if s = "" then some []
  else do
    let chain ← parse s
    let others ← othersBy? .and chain.rest
    (chain.first :: others).mapM Clause.ofTerm?

/-- Whether neither the fields nor the values of a filter hold delimiters. -/
def Filter.Undelimited (f : Filter) : Prop :=
  ∀ e ∈ f.entries, hasDelimiter e.1 = false ∧ ∀ v ∈ e.2.scalars, hasDelimiter v.render = false

/-- Whether the comparisons of a filter are read as they are. -/
def Filter.Legible (f : Filter) : Prop :=
  ∀ k ∈ f.normalForm, ∀ a ∈ k.condition.comparisons, a.asRead = a

instance (f : Filter) : Decidable f.Legible := by unfold Filter.Legible; infer_instance

/-- The normal form of a legible filter is read as it is. -/
theorem Filter.Legible.map_asRead {f : Filter} (h : f.Legible) :
    f.normalForm.map Clause.asRead = f.normalForm := by
  have hclause : ∀ k ∈ f.normalForm, k.asRead = k := fun k hk => by
    rw [Clause.asRead, Condition.asRead_eq_self (h k hk)]
  exact (List.map_congr_left hclause).trans (List.map_id _)

/-- A text without delimiters has no structural characters. -/
theorem unstructured_of_hasDelimiter {s : String} (h : hasDelimiter s = false) :
    Unstructured s := by
  have hsub : structural ⊆ delimiters := by decide
  exact fun c hc hmem => not_mem_delimiters h c hc (hsub hmem)

/-- A filter without delimiters has no structural characters. -/
theorem Filter.Undelimited.unstructured {f : Filter} (h : f.Undelimited) : f.Unstructured := by
  intro e he
  refine ⟨unstructured_of_hasDelimiter (h e he).1, ?_⟩
  intro v hv
  cases v with
  | text s => exact unstructured_of_hasDelimiter ((h e he).2 (.text s) hv)
  | _ => exact trivial

/-- The clauses of a filter without delimiters hold none. -/
theorem Filter.Undelimited.clause {f : Filter} (hf : f.Undelimited) {k : Clause}
    (hk : k ∈ f.normalForm) :
    hasDelimiter k.field = false ∧ ∀ a ∈ k.condition.comparisons, a.operand.Undelimited := by
  obtain ⟨e, he, hfield, -⟩ := Filter.exists_entry hk
  refine ⟨hfield ▸ (hf e he).1, ?_⟩
  intro a ha s hs
  obtain ⟨e, he, -, v, hv, rfl⟩ := Filter.exists_scalar hk ha hs
  exact (hf e he).2 v hv

/-- **The expression of a filter without delimiters is read as its normal form**, by the longest
operators and without empty brackets. -/
theorem Filter.Undelimited.read_expression {f : Filter} (hf : f.Undelimited) :
    readClauses f.expression = some (f.normalForm.map Clause.asRead) := by
  have hempty := f.expression_eq_empty_iff_normalForm
  rcases hform : f.normalForm with _ | ⟨k, rest⟩
  · rw [readClauses, if_pos (hempty.mpr hform)]
    rfl
  · have hne : f.expression ≠ "" := fun h => by
      rw [hempty.mp h] at hform
      exact List.cons_ne_nil k rest hform.symm
    have hread : ∀ d ∈ k :: rest, Clause.ofTerm? d.term = some d.asRead := by
      intro d hd
      have hclause := hf.clause (hform.symm ▸ hd)
      exact Clause.ofTerm?_term hclause.1 hclause.2
    rw [readClauses, if_neg hne, Filter.parse_expression hf.unstructured hform]
    simp only [Option.bind_eq_bind, Option.bind_some, Chain.joined, othersBy?_map]
    rw [← List.map_cons]
    exact mapM_map_of_forall hread

/-- **Filters without delimiters have the same expression exactly when their normal forms are read
alike.** -/
theorem Filter.Undelimited.expression_eq_iff {f g : Filter} (hf : f.Undelimited)
    (hg : g.Undelimited) :
    f.expression = g.expression ↔
      f.normalForm.map Clause.asRead = g.normalForm.map Clause.asRead := by
  constructor
  · intro h
    have hread : some (f.normalForm.map Clause.asRead) = some (g.normalForm.map Clause.asRead) := by
      rw [← hf.read_expression, ← hg.read_expression, h]
    exact Option.some.inj hread
  · intro h
    have hclauses : ∀ e : Filter, e.clauses =
        (e.normalForm.map Clause.asRead).map fun k => k.term.text := by
      intro e
      rw [e.clauses_eq_map_text, List.map_map]
      exact List.map_congr_left fun k _ => k.text_asRead.symm
    rw [Filter.expression, Filter.expression, hclauses f, hclauses g, h]

end CollectionSearch
