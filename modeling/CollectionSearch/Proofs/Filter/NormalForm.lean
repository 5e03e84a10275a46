import CollectionSearch.Filter.Signals
import CollectionSearch.Proofs.Expression.Parser
import CollectionSearch.Proofs.Number.Plain
import CollectionSearch.Proofs.Text.Split

/-!
# The normal form of filters

What a filter says, without the ways of saying it: a clause for every field of which something is
said, made of comparisons with the text of what they compare with. A plain value is a comparison by
equality, a list of values one with any of them, and maps without comparisons are left out.

* `Comparison`, `Conjunction`, `Condition`, `Clause` : the parts. None of them can be empty.
* `Predicate.condition?`, `Filter.normalForm` : the normal form.
* `Clause.term` : the syntax tree of a clause.

**Main statements:** `expression_of_normalForm` says that the expression of a filter is the text of
the syntax tree of its normal form, `condition?_eq_none_iff` that exactly the dropped predicates
have no condition.
-/

namespace CollectionSearch

open Expression

/-! ## Clauses -/

/-- What a comparison compares with, as it is written. -/
inductive OperandText where
  | one (value : String)
  | many (values : List String)
  deriving DecidableEq

/-- A comparison, with its operand as it is written. -/
structure Comparison where
  /-- How values are compared. -/
  operator : FilterOperator
  /-- What they are compared with. -/
  operand : OperandText
  deriving DecidableEq

/-- Comparisons that must hold together. -/
structure Conjunction where
  /-- The first comparison. -/
  first : Comparison
  /-- The others. -/
  others : List Comparison
  deriving DecidableEq

/-- What is said of a field. -/
inductive Condition where
  /-- The comparisons hold. -/
  | all (g : Conjunction)
  /-- The comparisons of one of the groups hold. -/
  | any (first : Conjunction) (others : List Conjunction)
  deriving DecidableEq

/-- A field and what is said of it. -/
structure Clause where
  /-- The field. -/
  field : String
  /-- What is said of it. -/
  condition : Condition
  deriving DecidableEq

/-- The texts of the values that a comparison compares with. -/
def OperandText.values : OperandText → List String
  | one value => [value]
  | many values => values

/-- The comparisons of a group, in order. -/
def Conjunction.comparisons (g : Conjunction) : List Comparison := g.first :: g.others

/-- The comparisons of a condition, in order. -/
def Condition.comparisons : Condition → List Comparison
  | all g => g.comparisons
  | any g gs => (g :: gs).flatMap Conjunction.comparisons

/-! ## The normal form -/

/-- An operand as it is written. -/
def Operand.toText : Operand → OperandText
  | one value => .one value.render
  | many values => .many (values.map FilterScalar.render)

/-- The comparisons of a map, in order. -/
def OperatorMap.comparisons (map : OperatorMap) : List Comparison :=
  map.entries.map fun e => ⟨e.1, e.2.toText⟩

/-- The group of some comparisons, if there are any. -/
def Conjunction.ofList? : List Comparison → Option Conjunction
  | [] => none
  | a :: rest => some ⟨a, rest⟩

/-- The condition that one of some groups holds, if there are any. -/
def Condition.ofList? : List Conjunction → Option Condition
  | [] => none
  | g :: rest => some (.any g rest)

/-- The group of a map of comparisons, unless it is empty. -/
def OperatorMap.conjunction? (map : OperatorMap) : Option Conjunction :=
  Conjunction.ofList? map.comparisons

/-- What a predicate says, if it says something. -/
def Predicate.condition? : Predicate → Option Condition
  | null => none
  | scalar value => some (.all ⟨⟨.eq, .one value.render⟩, []⟩)
  | anyOf [] => none
  | anyOf values => some (.all ⟨⟨.eq, .many (values.map FilterScalar.render)⟩, []⟩)
  | ops map => map.conjunction?.map .all
  | anyOps maps => Condition.ofList? (maps.filterMap OperatorMap.conjunction?)

/-- The clauses of a filter, in order. -/
def Filter.normalForm (f : Filter) : List Clause :=
  f.entries.filterMap fun e => e.2.condition?.map (Clause.mk e.1)

/-- A filter with a clause of every shape, and an entry that is dropped. -/
def Filter.sample : Filter :=
  let none : OperatorMap := OrderedMap.empty
  let range := none.insert .gte (.one (.int 10)) |>.insert .lt (.one (.int 50))
  let stars := none.insert .gt (.one (.int 4))
  let words := none.insert .contains (.one (.text "very good"))
    |>.insert .neq (.many [.text "new", .text "poor"])
  Filter.empty.eq "title" (.text "red shoes") |>.null "brand" |>.anyOf "size" [.int 42, .text "XL"]
    |>.ops "price" range |>.anyOps "rating" [stars, none, words]

/-- A map has no group exactly when it has no comparisons. -/
theorem OperatorMap.conjunction?_eq_none_iff (map : OperatorMap) :
    map.conjunction? = none ↔ map.isEmpty = true := by
  unfold OperatorMap.conjunction? OperatorMap.comparisons OrderedMap.isEmpty
  cases map.entries <;> simp [Conjunction.ofList?]

/-- The group of a map has its comparisons. -/
theorem OperatorMap.comparisons_of_conjunction? {map : OperatorMap} {g : Conjunction}
    (h : map.conjunction? = some g) : g.comparisons = map.comparisons := by
  rw [OperatorMap.conjunction?] at h
  rcases hm : map.comparisons with _ | ⟨a, rest⟩ <;> rw [hm] at h <;> cases h
  rfl

/-- Exactly the dropped predicates have no condition. -/
theorem Predicate.condition?_eq_none_iff (p : Predicate) :
    p.condition? = none ↔ p.isDropped = true := by
  cases p with
  | null => simp [condition?, isDropped]
  | scalar value => simp [condition?, isDropped]
  | anyOf values => cases values <;> simp [condition?, isDropped]
  | ops map =>
      rw [condition?, isDropped, Option.map_eq_none_iff, OperatorMap.conjunction?_eq_none_iff]
  | anyOps maps =>
      have hnone : (maps.filterMap OperatorMap.conjunction?) = [] ↔
          maps.all OrderedMap.isEmpty = true := by
        rw [List.filterMap_eq_nil_iff, List.all_eq_true]
        exact forall₂_congr fun map _ => OperatorMap.conjunction?_eq_none_iff map
      rw [condition?, isDropped, ← hnone]
      cases maps.filterMap OperatorMap.conjunction? <;> simp [Condition.ofList?]

/-- A predicate that has a condition is not dropped. -/
theorem Predicate.isDropped_of_condition? {p : Predicate} {c : Condition}
    (h : p.condition? = some c) : p.isDropped = false := by
  rw [← Bool.not_eq_true, ← p.condition?_eq_none_iff, h]
  exact Option.some_ne_none c

/-- The clauses are about the fields of the entries that are not dropped. -/
theorem Filter.map_field_normalForm (f : Filter) :
    f.normalForm.map Clause.field =
      (f.entries.filter fun e => !e.2.isDropped).map Prod.fst := by
  unfold Filter.normalForm
  induction f.entries with
  | nil => rfl
  | cons e rest ih =>
      rcases hc : e.2.condition? with _ | c
      · have hd : e.2.isDropped = true := e.2.condition?_eq_none_iff.mp hc
        simp [hc, hd, ih]
      · have hd : e.2.isDropped = false := Predicate.isDropped_of_condition? hc
        simp [hc, hd, ih]

/-- A filter has no clauses exactly when all its entries are dropped. -/
theorem Filter.normalForm_eq_nil_iff (f : Filter) :
    f.normalForm = [] ↔ ∀ e ∈ f.entries, e.2.isDropped = true := by
  rw [← List.map_eq_nil_iff, f.map_field_normalForm, List.map_eq_nil_iff,
    List.filter_eq_nil_iff]
  exact forall₂_congr fun e _ => by simp

/-! ## The text of clauses -/

/-- The text of an operand. -/
def OperandText.text : OperandText → String
  | one value => value
  | many values => "[" ++ ",".intercalate values ++ "]"

/-- The text of a comparison. -/
def Comparison.text (field : String) (a : Comparison) : String :=
  field ++ a.operator.token ++ a.operand.text

/-- The syntax tree of a comparison. -/
def Comparison.term (field : String) (a : Comparison) : Term := .atom (a.text field)

/-- The syntax tree of a group: a single comparison is bare, several stand in parentheses. -/
def Conjunction.term (field : String) : Conjunction → Term
  | ⟨a, []⟩ => a.term field
  | ⟨a, b :: rest⟩ =>
    (Chain.joined .and (a.term field) ((b :: rest).map (Comparison.term field))).group

/-- The syntax tree of a condition: alternatives stand in parentheses, even a single one. -/
def Condition.term (field : String) : Condition → Term
  | all g => g.term field
  | any g gs => (Chain.joined .or (g.term field) (gs.map (Conjunction.term field))).group

/-- The syntax tree of a clause. -/
def Clause.term (c : Clause) : Term := c.condition.term c.field

/-- An operand is written as its normal form is. -/
theorem Operand.render_eq_text (o : Operand) : o.render = o.toText.text := by
  cases o <;> rfl

/-- The atoms of a map are the texts of its comparisons. -/
theorem OperatorMap.atoms_eq_map_text (field : String) (map : OperatorMap) :
    OperatorMap.atoms field map = map.comparisons.map (Comparison.text field) := by
  unfold OperatorMap.atoms OperatorMap.comparisons
  rw [List.map_map]
  exact List.map_congr_left fun e _ => by
    rw [Function.comp_apply, Comparison.text, Operand.render_eq_text]

/-- The text of a comparison is that of its syntax tree. -/
theorem Comparison.text_term (field : String) (a : Comparison) :
    (a.term field).text = a.text field := text_atom _

/-- A group of atoms is written as its syntax tree is. -/
theorem Conjunction.text_term (field : String) (g : Conjunction) :
    (g.term field).text = conjunction (g.comparisons.map (Comparison.text field)) := by
  have htext : Term.text ∘ Comparison.term field = Comparison.text field :=
    funext fun a => a.text_term field
  rcases g with ⟨a, _ | ⟨b, rest⟩⟩
  · exact a.text_term field
  · rw [Conjunction.term, text_group_joined, List.map_cons, List.map_map, htext, a.text_term]
    rfl

/-- The groups of some maps are the comparisons of those that are not empty. -/
theorem OperatorMap.groups_eq_map (field : String) (maps : List OperatorMap) :
    OperatorMap.groups field maps =
      (maps.filterMap OperatorMap.conjunction?).map fun g =>
        g.comparisons.map (Comparison.text field) := by
  unfold OperatorMap.groups
  induction maps with
  | nil => rfl
  | cons map rest ih =>
      rw [List.map_cons, List.filter_cons, ih, OperatorMap.atoms_eq_map_text, List.filterMap_cons,
        OperatorMap.conjunction?]
      rcases map.comparisons with _ | ⟨a, others⟩ <;> rfl

/-- A clause is written as its syntax tree is. -/
theorem Predicate.clause?_eq_map_text (field : String) (p : Predicate) :
    p.clause? field = p.condition?.map fun c => (c.term field).text := by
  cases p with
  | null => rfl
  | scalar value => exact congrArg some (text_atom _).symm
  | anyOf values =>
      rcases values with _ | ⟨v, rest⟩
      · rfl
      · exact congrArg some (text_atom _).symm
  | ops map =>
      rw [clause?, condition?, OperatorMap.atoms_eq_map_text, OperatorMap.conjunction?]
      rcases map.comparisons with _ | ⟨a, rest⟩
      · rfl
      · exact congrArg some (Conjunction.text_term field ⟨a, rest⟩).symm
  | anyOps maps =>
      have htext : (fun g : Conjunction => (g.term field).text) =
          conjunction ∘ fun g => g.comparisons.map (Comparison.text field) :=
        funext fun g => g.text_term field
      rw [clause?, condition?, OperatorMap.groups_eq_map, List.map_map, ← htext]
      rcases maps.filterMap OperatorMap.conjunction? with _ | ⟨g, gs⟩
      · rfl
      · simp only [Condition.ofList?, Condition.term, Option.map_some, text_group_joined,
          List.map_cons, List.map_map]
        rfl

/-- The clauses of a filter are the texts of those of its normal form. -/
theorem Filter.clauses_eq_map_text (f : Filter) :
    f.clauses = f.normalForm.map fun c => c.term.text := by
  unfold Filter.clauses Filter.normalForm
  rw [List.map_filterMap]
  refine congrArg (fun g => f.entries.filterMap g) (funext fun e => ?_)
  rw [Predicate.clause?_eq_map_text, Option.map_map]
  rfl

/-- A comparison has a text. -/
theorem Comparison.text_ne_empty (field : String) (a : Comparison) : a.text field ≠ "" := by
  intro h
  have htoken : a.operator.token = "" :=
    (String.append_eq_empty_iff.mp (String.append_eq_empty_iff.mp h).1).2
  exact absurd htoken (by cases a.operator <;> decide)

/-- A clause has a text. -/
theorem Clause.text_ne_empty (k : Clause) : k.term.text ≠ "" := by
  have hgroup : ∀ c first others, (Chain.joined c first others).group.text ≠ "" := by
    intro c first others h
    rw [text_group_joined, String.append_assoc] at h
    exact absurd (String.append_eq_empty_iff.mp h).1 (by decide)
  rcases k with ⟨field, ⟨a, _ | ⟨b, rest⟩⟩ | ⟨g, gs⟩⟩
  · rw [Clause.term, Condition.term, Conjunction.term, Comparison.text_term]
    exact a.text_ne_empty field
  · exact hgroup .and _ _
  · exact hgroup .or _ _

/-- Only the filters without clauses have the empty expression. -/
theorem Filter.expression_eq_empty_iff_normalForm (f : Filter) :
    f.expression = "" ↔ f.normalForm = [] := by
  rw [Filter.expression, f.clauses_eq_map_text]
  rcases f.normalForm with _ | ⟨k, rest⟩
  · exact iff_of_true rfl rfl
  · refine iff_of_false ?_ (List.cons_ne_nil k rest)
    rw [List.map_cons, Text.intercalate_cons_eq_empty_iff (by decide)]
    exact fun h => k.text_ne_empty h.1

/-- **The expression of a filter is the text of the syntax tree of its normal form.** -/
theorem Filter.expression_of_normalForm {f : Filter} {c : Clause} {rest : List Clause}
    (h : f.normalForm = c :: rest) :
    f.expression = (Chain.joined .and c.term (rest.map Clause.term)).text := by
  rw [Filter.expression, f.clauses_eq_map_text, h, text_joined, List.map_cons, List.map_cons,
    List.map_map]
  rfl

/-! ## The values of comparisons -/

/-- The values of an operand are written as they are one by one. -/
theorem Operand.values_toText (o : Operand) :
    o.toText.values = o.scalars.map FilterScalar.render := by
  cases o <;> rfl

/-- The comparisons of a map have the texts of its values, in order. -/
theorem OperatorMap.values_comparisons (map : OperatorMap) :
    (map.comparisons.flatMap fun a => a.operand.values) =
      (OperatorMap.scalars map).map FilterScalar.render := by
  unfold OperatorMap.comparisons OperatorMap.scalars
  rw [List.flatMap_map, List.map_flatMap]
  exact congrArg (fun g => map.entries.flatMap g) (funext fun e => e.2.values_toText)

/-- Leaving out the maps without comparisons leaves out no comparison. -/
theorem OperatorMap.comparisons_conjunctions (maps : List OperatorMap) :
    (maps.filterMap OperatorMap.conjunction?).flatMap Conjunction.comparisons =
      maps.flatMap OperatorMap.comparisons := by
  induction maps with
  | nil => rfl
  | cons map rest ih =>
      rw [List.filterMap_cons, List.flatMap_cons, OperatorMap.conjunction?]
      rcases map.comparisons with _ | ⟨a, others⟩
      · exact ih
      · rw [Conjunction.ofList?, List.flatMap_cons, ih]
        rfl

/-- The comparisons that a predicate stands for, in order. -/
def Predicate.comparisons : Predicate → List Comparison
  | null => []
  | scalar value => [⟨.eq, .one value.render⟩]
  | anyOf [] => []
  | anyOf values => [⟨.eq, .many (values.map FilterScalar.render)⟩]
  | ops map => map.comparisons
  | anyOps maps => maps.flatMap OperatorMap.comparisons

/-- The comparisons of a condition are those of the predicate. -/
theorem Predicate.comparisons_of_condition? {p : Predicate} {c : Condition}
    (h : p.condition? = some c) : c.comparisons = p.comparisons := by
  cases p with
  | null => exact absurd h (by simp [condition?])
  | scalar value =>
      cases h
      rfl
  | anyOf values =>
      rcases values with _ | ⟨v, rest⟩
      · exact absurd h (by simp [condition?])
      · cases h
        rfl
  | ops map =>
      obtain ⟨g, hg, rfl⟩ := Option.map_eq_some_iff.mp h
      exact OperatorMap.comparisons_of_conjunction? hg
  | anyOps maps =>
      rw [condition?] at h
      rw [comparisons, ← OperatorMap.comparisons_conjunctions]
      rcases hm : maps.filterMap OperatorMap.conjunction? with _ | ⟨g, gs⟩ <;> rw [hm] at h <;>
        cases h
      rfl

/-- A predicate without a condition has no comparisons. -/
theorem Predicate.comparisons_of_isDropped {p : Predicate} (h : p.isDropped = true) :
    p.comparisons = [] := by
  have hempty : ∀ {map : OperatorMap}, map.isEmpty = true → map.comparisons = [] := fun hmap =>
    List.map_eq_nil_iff.mpr (List.isEmpty_iff.mp hmap)
  cases p with
  | null => rfl
  | scalar value => cases h
  | anyOf values =>
      rw [List.isEmpty_iff.mp h]
      rfl
  | ops map => exact hempty h
  | anyOps maps =>
      exact List.flatMap_eq_nil_iff.mpr fun map hmap => hempty (List.all_eq_true.mp h map hmap)

/-- The comparisons of a predicate have the texts of its values, in order. -/
theorem Predicate.values_comparisons (p : Predicate) :
    (p.comparisons.flatMap fun a => a.operand.values) = p.scalars.map FilterScalar.render := by
  cases p with
  | null => rfl
  | scalar value => rfl
  | anyOf values =>
      rcases values with _ | ⟨v, rest⟩
      · rfl
      · exact List.append_nil _
  | ops map => exact map.values_comparisons
  | anyOps maps =>
      rw [comparisons, List.flatMap_assoc, scalars, List.map_flatMap]
      exact congrArg (fun g => maps.flatMap g) (funext OperatorMap.values_comparisons)

/-- So have those of its condition. -/
theorem Predicate.values_condition {p : Predicate} {c : Condition} (h : p.condition? = some c) :
    (c.comparisons.flatMap fun a => a.operand.values) = p.scalars.map FilterScalar.render := by
  rw [comparisons_of_condition? h, values_comparisons]

/-- A clause of a filter comes from an entry. -/
theorem Filter.exists_entry {f : Filter} {k : Clause} (hk : k ∈ f.normalForm) :
    ∃ e ∈ f.entries, e.1 = k.field ∧ e.2.condition? = some k.condition := by
  obtain ⟨e, he, hek⟩ := List.mem_filterMap.mp hk
  obtain ⟨c, hc, rfl⟩ := Option.map_eq_some_iff.mp hek
  exact ⟨e, he, rfl, hc⟩

/-- A value in a clause of a filter is the text of a value of the entry. -/
theorem Filter.exists_scalar {f : Filter} {k : Clause} (hk : k ∈ f.normalForm) {a : Comparison}
    (ha : a ∈ k.condition.comparisons) {s : String} (hs : s ∈ a.operand.values) :
    ∃ e ∈ f.entries, e.1 = k.field ∧ ∃ v ∈ e.2.scalars, v.render = s := by
  obtain ⟨e, he, hfield, hc⟩ := Filter.exists_entry hk
  have hmem : s ∈ e.2.scalars.map FilterScalar.render := by
    rw [← Predicate.values_condition hc]
    exact List.mem_flatMap.mpr ⟨a, ha, hs⟩
  exact ⟨e, he, hfield, List.mem_map.mp hmem⟩

/-! ## The syntax read back -/

/-- The atoms of a group are its comparisons. -/
theorem Conjunction.atoms_term (field : String) (g : Conjunction) :
    (g.term field).atoms = g.comparisons.map (Comparison.text field) := by
  rcases g with ⟨a, _ | ⟨b, rest⟩⟩
  · rfl
  · rw [Conjunction.term, atoms_group, atoms_joined_map]
    exact List.map_eq_flatMap.symm

/-- The atoms of a condition are its comparisons. -/
theorem Condition.atoms_term (field : String) (c : Condition) :
    (c.term field).atoms = c.comparisons.map (Comparison.text field) := by
  cases c with
  | all g => exact g.atoms_term field
  | any g gs =>
      rw [Condition.term, atoms_group, atoms_joined_map, Condition.comparisons, List.map_flatMap]
      exact congrArg (fun h => (g :: gs).flatMap h) (funext fun g => g.atoms_term field)

section closed

/-- What atoms are made of beside fields and values. -/
def atomMarks : List String := ["", "[", ",", "]"] ++ FilterOperator.all.map FilterOperator.token

variable {P : String → Prop} (hmarks : ∀ s ∈ atomMarks, P s)
  (happend : ∀ {s t : String}, P s → P t → P (s ++ t))

include hmarks happend

/-- What appending keeps holds for the text of an operand when it holds for its values. -/
theorem OperandText.text_closed {o : OperandText} (h : ∀ s ∈ o.values, P s) : P o.text := by
  cases o with
  | one value => exact h value List.mem_cons_self
  | many values =>
      have hjoined : P (",".intercalate values) :=
        Text.intercalate_closed (hmarks "" (by decide)) happend (hmarks "," (by decide)) h
      exact happend (happend (hmarks "[" (by decide)) hjoined) (hmarks "]" (by decide))

/-- It holds for the text of a comparison when it holds for the field, too. -/
theorem Comparison.text_closed {field : String} {a : Comparison} (hfield : P field)
    (hvalues : ∀ s ∈ a.operand.values, P s) : P (a.text field) := by
  have htoken : P a.operator.token := by
    apply hmarks
    cases a.operator <;> decide
  exact happend (happend hfield htoken) (OperandText.text_closed hmarks happend hvalues)

/-- It holds for the atoms of the clauses of a filter when it holds for its fields and values. -/
theorem Filter.atom_closed {f : Filter}
    (h : ∀ e ∈ f.entries, P e.1 ∧ ∀ v ∈ e.2.scalars, P v.render) {k : Clause}
    (hk : k ∈ f.normalForm) : ∀ s ∈ k.term.atoms, P s := by
  intro s hs
  rw [Clause.term, Condition.atoms_term] at hs
  obtain ⟨a, ha, rfl⟩ := List.mem_map.mp hs
  obtain ⟨e, he, hfield, -⟩ := Filter.exists_entry hk
  refine Comparison.text_closed hmarks happend (hfield ▸ (h e he).1) ?_
  intro t ht
  obtain ⟨e, he, -, v, hv, rfl⟩ := Filter.exists_scalar hk ha ht
  exact (h e he).2 v hv

end closed

/-- The atoms of a clause are not empty. -/
theorem Clause.ne_empty_of_mem_atoms {k : Clause} : ∀ s ∈ k.term.atoms, s ≠ "" := by
  intro s hs
  rw [Clause.term, Condition.atoms_term] at hs
  obtain ⟨a, -, rfl⟩ := List.mem_map.mp hs
  exact a.text_ne_empty k.field

/-- Texts without structural characters can be put together. -/
theorem Expression.Unstructured.append {s t : String} (hs : Unstructured s) (ht : Unstructured t) :
    Unstructured (s ++ t) := by
  intro c hc
  rw [String.toList_append, List.mem_append] at hc
  exact hc.elim (hs c) (ht c)

/-- Whether a value has no structural characters. Numbers and truth values never have any. -/
def FilterScalar.Unstructured : FilterScalar → Prop
  | text s => Expression.Unstructured s
  | _ => True

/-- Whether neither the fields nor the values of a filter have structural characters. -/
def Filter.Unstructured (f : Filter) : Prop :=
  ∀ e ∈ f.entries, Expression.Unstructured e.1 ∧ ∀ v ∈ e.2.scalars, v.Unstructured

instance : (v : FilterScalar) → Decidable v.Unstructured
  | .text s => inferInstanceAs (Decidable (Expression.Unstructured s))
  | .int _ => isTrue trivial
  | .float _ => isTrue trivial
  | .bool _ => isTrue trivial

instance (f : Filter) : Decidable f.Unstructured := by unfold Filter.Unstructured; infer_instance

/-- The text of such a value has no structural characters. -/
theorem FilterScalar.unstructured_render :
    (v : FilterScalar) → v.Unstructured → Expression.Unstructured v.render
  | .text _, h => h
  | .int n, _ => (numeric_render (.int n) nofun).not_mem (by decide)
  | .float x, _ => (numeric_render (.float x) nofun).not_mem (by decide)
  | .bool b, _ => (numeric_render (.bool b) nofun).not_mem (by decide)

/-- The atoms of the clauses of such a filter can stand as atoms. -/
theorem Filter.isAtom_of_mem_atoms {f : Filter} (h : f.Unstructured) {k : Clause}
    (hk : k ∈ f.normalForm) : ∀ s ∈ k.term.atoms, IsAtom s := by
  intro s hs
  have hparts : ∀ e ∈ f.entries, Expression.Unstructured e.1 ∧
      ∀ v ∈ e.2.scalars, Expression.Unstructured v.render :=
    fun e he => ⟨(h e he).1, fun v hv => v.unstructured_render ((h e he).2 v hv)⟩
  exact ⟨Clause.ne_empty_of_mem_atoms s hs,
    Filter.atom_closed (by decide) Expression.Unstructured.append hparts hk s hs⟩

/-- **The expression of such a filter is parsed to the syntax tree of its normal form.** -/
theorem Filter.parse_expression {f : Filter} (h : f.Unstructured) {c : Clause} {rest : List Clause}
    (hf : f.normalForm = c :: rest) :
    parse f.expression = some (Chain.joined .and c.term (rest.map Clause.term)) := by
  rw [Filter.expression_of_normalForm hf]
  refine parse_text _ ?_
  intro s hs
  rw [atoms_joined_map, ← hf] at hs
  obtain ⟨k, hk, hs⟩ := List.mem_flatMap.mp hs
  exact Filter.isAtom_of_mem_atoms h hk s hs

end CollectionSearch
