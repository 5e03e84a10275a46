import CollectionSearch.Schema.Collection
import Mathlib.Logic.Basic

/-!
# The rules of drafts

A draft is judged by rules in a fixed order: that of the name, those of the fields in the order of
their declarations, and those of the sorting field, which see the identifier among the fields. The
draft becomes a schema when it breaks none of them, and else the first that it breaks is told.

* `Rule`, `FirstBroken`, `Applies` : rules in order, the first that is broken, and computations that
  apply them.
* `CollectionDraft.rules` : the rules of a draft.

**Main statements:** `applies_check` says that a draft is checked by its rules, `valid_iff` that it
is valid exactly when it breaks none of them, and `build_eq_error_iff` that it is refused with the
fault of the first that it breaks.
-/

namespace CollectionSearch

/-! ## Rules in order -/

/-- A rule, with the fault of breaking it. -/
structure Rule where
  /-- Whether the rule is broken. -/
  broken : Prop
  /-- What is told then. -/
  fault : SchemaFault

/-- Whether some rule is broken and the first of those has the fault. -/
def FirstBroken : List Rule → SchemaFault → Prop
  | [], _ => False
  | r :: rest, fault => (r.broken ∧ r.fault = fault) ∨ (¬ r.broken ∧ FirstBroken rest fault)

/-- Whether a computation applies rules in order and gives a value when none is broken. -/
def Applies {α : Type} (a : α) : List Rule → Except SchemaFault α → Prop
  | [], x => x = .ok a
  | r :: rest, x => (r.broken → x = .error r.fault) ∧ (¬ r.broken → Applies a rest x)

namespace Applies

variable {α β : Type} {a : α} {x : Except SchemaFault α}

/-- A computation that applies rules succeeds when none is broken. -/
theorem eq_ok_iff {b : α} : {rules : List Rule} → Applies a rules x →
    (x = .ok b ↔ (∀ r ∈ rules, ¬ r.broken) ∧ b = a)
  | [], h => by
      rw [show x = .ok a from h, Except.ok.injEq, eq_comm]
      exact (and_iff_right (List.forall_mem_nil _)).symm
  | r :: rest, h => by
      rw [List.forall_mem_cons]
      by_cases hr : r.broken
      · rw [h.1 hr]
        exact iff_of_false nofun fun hb => hb.1.1 hr
      · rw [(h.2 hr).eq_ok_iff, and_iff_right hr]

/-- It fails with the fault of the first rule that is broken. -/
theorem eq_error_iff {fault : SchemaFault} : {rules : List Rule} → Applies a rules x →
    (x = .error fault ↔ FirstBroken rules fault)
  | [], h => by
      rw [show x = .ok a from h]
      exact iff_of_false nofun id
  | r :: rest, h => by
      by_cases hr : r.broken
      · rw [h.1 hr, Except.error.injEq, FirstBroken, and_iff_right hr]
        exact (or_iff_left fun hrest => hrest.1 hr).symm
      · rw [(h.2 hr).eq_error_iff, FirstBroken, and_iff_right hr]
        exact (or_iff_right fun hfirst => hr hfirst.1).symm

/-- A check before a computation is one more rule. -/
theorem ite {p : Prop} [Decidable p] {fault : SchemaFault} {rules : List Rule}
    (h : ¬ p → Applies a rules x) :
    Applies a (⟨p, fault⟩ :: rules) (if p then .error fault else x) := by
  refine ⟨fun hp => if_pos hp, fun hp => ?_⟩
  rw [if_neg hp]
  exact h hp

/-- One computation after the other applies the rules of both. The second may rely on what the first
has checked. -/
theorem bind {b : β} {f : α → Except SchemaFault β} {others : List Rule} :
    {rules : List Rule} → Applies a rules x →
      ((∀ r ∈ rules, ¬ r.broken) → Applies b others (f a)) → Applies b (rules ++ others) (x >>= f)
  | [], h, hf => by
      rw [show x = .ok a from h]
      exact hf (List.forall_mem_nil _)
  | r :: rest, h, hf => by
      refine ⟨fun hr => ?_, fun hr => ?_⟩
      · rw [h.1 hr]
        rfl
      · exact (h.2 hr).bind fun hrest => hf (List.forall_mem_cons.mpr ⟨hr, hrest⟩)

end Applies

/-! ## The rules of a draft -/

namespace CollectionDraft

/-- The rules of a declaration, given the names declared before. -/
def fieldRules (earlier : List String) (name : String) (f : Field) : List Rule :=
  [⟨name = "", .emptyFieldName⟩, ⟨name = wildcardName, .reservedName⟩,
    ⟨name ∈ earlier, .duplicateField name⟩,
    ⟨name = identifierName ∧ f.type ≠ .string, .identifierType f.type⟩,
    ⟨name = identifierName ∧ (f.optional = some true ∨ f.index = some false),
      .identifierOptional⟩]

/-- The rules of the declarations in order, given the names declared before. -/
def fieldsRules : List String → List (String × Field) → List Rule
  | _, [] => []
  | earlier, (name, f) :: rest => fieldRules earlier name f ++ fieldsRules (name :: earlier) rest

/-- The rules of the sorting field, given the declarations with the identifier among them. -/
def sortingRules (fields : List (String × Field)) : Option String → List Rule
  | none => []
  | some name =>
    ⟨name ∉ fields.map Prod.fst, .sortingFieldUndeclared name⟩ ::
      (fields.find? fun e => e.1 = name).toList.map fun e =>
        ⟨e.2.type ∉ numericTypes, .sortingFieldNotNumeric name e.2.type⟩

/-- The rules of a draft in order: that of the name, those of the fields, those of the sorting
field. -/
def rules (d : CollectionDraft) : List Rule :=
  ⟨∀ c ∈ d.name.toList, Text.isSpace c = true, .blankName⟩ ::
    (fieldsRules [] d.fields ++ sortingRules (withIdentifier d.fields) d.sortingField)

/-! ## The check applies the rules -/

/-- The declaration of the identifier is checked by its rules. -/
theorem applies_checkIdentifier {name : String} (hname : name = identifierName) (f : Field) :
    Applies () [⟨name = identifierName ∧ f.type ≠ .string, .identifierType f.type⟩,
      ⟨name = identifierName ∧ (f.optional = some true ∨ f.index = some false),
        .identifierOptional⟩] (checkIdentifier f) := by
  rw [checkIdentifier]
  refine ⟨fun h => if_pos h.2, fun htype => ?_⟩
  rw [if_neg fun h => htype ⟨hname, h⟩]
  refine ⟨fun h => if_pos (f.isOptional_iff.mpr h.2), fun hoptional => ?_⟩
  exact if_neg fun h => hoptional ⟨hname, f.isOptional_iff.mp h⟩

/-- The declarations are checked by their rules. -/
theorem applies_checkFields : (earlier : List String) → (fields : List (String × Field)) →
    Applies () (fieldsRules earlier fields) (checkFields earlier fields)
  | _, [] => rfl
  | earlier, (name, f) :: rest => by
      have hrest := applies_checkFields (name :: earlier) rest
      rw [fieldsRules, fieldRules, checkFields]
      simp only [String.isEmpty_iff]
      refine Applies.ite fun _ => Applies.ite fun _ => Applies.ite fun _ => ?_
      by_cases hname : name = identifierName
      · rw [if_pos hname]
        exact (applies_checkIdentifier hname f).bind fun _ => hrest
      · rw [if_neg hname]
        exact ⟨fun h => absurd h.1 hname, fun _ => ⟨fun h => absurd h.1 hname, fun _ => hrest⟩⟩

/-- The sorting field is checked by its rules. -/
theorem applies_checkSorting (fields : List (String × Field)) (sorting : Option String) :
    Applies () (sortingRules fields sorting) (checkSorting fields sorting) := by
  rcases sorting with _ | name
  · rfl
  · have hdeclared : (fields.find? fun e => e.1 = name).isSome = true ↔
        name ∈ fields.map Prod.fst := by
      rw [List.find?_isSome, List.mem_map]
      exact exists_congr fun e => and_congr_right fun _ => decide_eq_true_iff
    rcases hfind : fields.find? fun e => e.1 = name with _ | e <;>
      rw [hfind] at hdeclared <;> rw [sortingRules, checkSorting, checkSortingField, hfind]
    · have hmissing : name ∉ fields.map Prod.fst := fun hmem =>
        Bool.false_ne_true (hdeclared.mpr hmem)
      exact ⟨fun _ => rfl, fun h => absurd hmissing h⟩
    · have hnumeric := e.2.type.isSortingType_iff
      refine ⟨fun h => absurd (hdeclared.mp rfl) h, fun _ => ⟨fun h => ?_, fun h => ?_⟩⟩
      · exact if_neg fun htype => h (hnumeric.mp htype)
      · exact if_pos (hnumeric.mpr (not_not.mp h))

/-- **A draft is checked by its rules.** -/
theorem applies_check (d : CollectionDraft) : Applies () d.rules d.check := by
  unfold check rules
  simp only [Text.isBlankText_iff]
  exact Applies.ite fun _ => (applies_checkFields [] d.fields).bind fun _ =>
    applies_checkSorting (withIdentifier d.fields) d.sortingField

/-- **A draft is valid exactly when it breaks no rule.** -/
theorem valid_iff (d : CollectionDraft) : d.Valid ↔ ∀ r ∈ d.rules, ¬ r.broken := by
  rw [← check_eq_ok_iff, d.applies_check.eq_ok_iff]
  exact and_iff_left rfl

/-- It is refused with the fault of the first rule that it breaks. -/
theorem build_eq_error_iff {d : CollectionDraft} {fault : SchemaFault} :
    d.build = .error fault ↔ FirstBroken d.rules fault := by
  rw [build_eq_error_iff_check_eq_error, d.applies_check.eq_error_iff]

end CollectionDraft

end CollectionSearch
