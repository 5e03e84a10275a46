import CollectionSearch.Ordered
import CollectionSearch.Schema.Error
import CollectionSearch.Schema.Field
import CollectionSearch.Text.Character

/-!
# Drafts

Declarations on the way to a collection. They are made in any order, and checked together: the name
first, then the fields in the order of their declarations, then the sorting field, which may be the
identifier that is put in front of the others.

* `CollectionDraft` : declarations as they are made.
* `CollectionDraft.check` : the first rule that a draft breaks, if it breaks one.
* `CollectionDraft.Valid` : what the rules ask for, in no order.
* `CollectionDraft.completed` : the draft with the identifier among its fields.

**Main statements:** `check_eq_ok_iff` says that exactly the valid drafts pass the check, and
`Valid.completed` that a valid draft is still valid with the identifier among its fields.
-/

namespace CollectionSearch

/-- The name of the field that identifies a document. -/
def identifierName : String := "id"

/-- The name of the catch-all declaration. -/
def wildcardName : String := ".*"

/-- Whether a field can identify documents: a string that no document may lack. -/
def Field.Identifies (f : Field) : Prop :=
  f.type = .string ∧ f.optional ≠ some true ∧ f.index ≠ some false

/-- The types of the fields that results can be sorted by. -/
def numericTypes : List FieldType := [.int32, .int64, .float]

/-- A field may be missing when its description says so or when it is not indexed. -/
theorem Field.isOptional_iff (f : Field) :
    f.isOptional = true ↔ f.optional = some true ∨ f.index = some false := by
  rw [isOptional, isIndexed, Bool.or_eq_true]
  simp [or_comm]

theorem FieldType.isSortingType_iff (t : FieldType) :
    t.isSortingType = true ↔ t ∈ numericTypes := by
  cases t <;> decide

/-- Declarations on the way to a schema. -/
structure CollectionDraft where
  /-- The name of the collection. -/
  name : String
  /-- The fields in the order in which they were declared, repetitions included. -/
  fields : List (String × Field) := []
  /-- The characters that part words, if not the usual ones. -/
  separators : Option (List String) := none
  /-- The field that results are sorted by when nothing else is said. -/
  sortingField : Option String := none

namespace CollectionDraft

/-! ## Declaring -/

/-- Declares a field. -/
def declare (d : CollectionDraft) (name : String) (f : Field) : CollectionDraft :=
  { d with fields := d.fields ++ [(name, f)] }

/-- Declares a plain string field. -/
def string (d : CollectionDraft) (name : String) : CollectionDraft :=
  d.declare name { type := .string }

/-- Declares a string field with facets. -/
def facetString (d : CollectionDraft) (name : String) : CollectionDraft :=
  d.declare name (Field.faceted { type := .string })

/-- Declares a floating-point field to sort by. -/
def sortFloat (d : CollectionDraft) (name : String) : CollectionDraft :=
  d.declare name (Field.sorted { type := .float })

/-- Declares a 64-bit integer field to sort by. -/
def sortInt64 (d : CollectionDraft) (name : String) : CollectionDraft :=
  d.declare name (Field.sorted { type := .int64 })

/-- Declares a vector field. -/
def vector (d : CollectionDraft) (name : String) (dimensions : UInt32) : CollectionDraft :=
  d.declare name (.vector dimensions)

/-- Sets the characters that part words. -/
def separateBy (d : CollectionDraft) (separators : List String) : CollectionDraft :=
  { d with separators := some separators }

/-- Sets the field that results are sorted by when nothing else is said. -/
def sortBy (d : CollectionDraft) (name : String) : CollectionDraft :=
  { d with sortingField := some name }

/-- The declarations with the identifier among them: a plain string field in front, unless it is
declared. -/
def withIdentifier (fields : List (String × Field)) : List (String × Field) :=
  if fields.any fun e => e.1 = identifierName then fields
  else (identifierName, { type := .string }) :: fields

/-- The draft with the identifier among its fields. -/
def completed (d : CollectionDraft) : CollectionDraft :=
  { d with fields := withIdentifier d.fields }

/-! ## Checking -/

/-- What is wrong with the declaration of the identifier. -/
def checkIdentifier (f : Field) : Except SchemaFault Unit :=
  if f.type ≠ .string then .error (.identifierType f.type)
  else if f.isOptional then .error .identifierOptional
  else .ok ()

/-- Checks the declarations in order, given the names declared before. -/
def checkFields : List String → List (String × Field) → Except SchemaFault Unit
  | _, [] => .ok ()
  | earlier, (name, f) :: rest =>
    if name.isEmpty then .error .emptyFieldName
    else if name = wildcardName then .error .reservedName
    else if name ∈ earlier then .error (.duplicateField name)
    else do
      if name = identifierName then checkIdentifier f
      checkFields (name :: earlier) rest

/-- Checks that results can be sorted by a field. -/
def checkSortingField (fields : List (String × Field)) (name : String) :
    Except SchemaFault Unit :=
  match fields.find? fun e => e.1 = name with
  | none => .error (.sortingFieldUndeclared name)
  | some e =>
    if e.2.type.isSortingType then .ok () else .error (.sortingFieldNotNumeric name e.2.type)

/-- Checks the sorting field, if there is one. -/
def checkSorting (fields : List (String × Field)) : Option String → Except SchemaFault Unit
  | none => .ok ()
  | some name => checkSortingField fields name

/-- The first rule that is broken: that of the name, those of the fields in order, those of the
sorting field. -/
def check (d : CollectionDraft) : Except SchemaFault Unit :=
  if Text.isBlankText d.name then .error .blankName
  else do
    checkFields [] d.fields
    checkSorting (withIdentifier d.fields) d.sortingField

/-! ## Valid drafts -/

/-- What a draft must fulfil to become a schema. -/
structure Valid (d : CollectionDraft) : Prop where
  /-- The name is not blank. -/
  name : ∃ c ∈ d.name.toList, Text.isSpace c = false
  /-- The fields have names, and none of them that of the catch-all declaration. -/
  named : ∀ e ∈ d.fields, e.1 ≠ "" ∧ e.1 ≠ wildcardName
  /-- No field is declared twice. -/
  once : (d.fields.map Prod.fst).Nodup
  /-- The declared identifier can be one. -/
  identifier : ∀ f, (identifierName, f) ∈ d.fields → f.Identifies
  /-- Results can be sorted by the sorting field. -/
  sorting : ∀ name, d.sortingField = some name →
    ∃ f, (name, f) ∈ withIdentifier d.fields ∧ f.type ∈ numericTypes

/-- The identifier that is declared is not put in front. -/
theorem withIdentifier_of_mem {fields : List (String × Field)}
    (h : identifierName ∈ fields.map Prod.fst) : withIdentifier fields = fields := by
  obtain ⟨e, he, hname⟩ := List.mem_map.mp h
  exact if_pos (List.any_eq_true.mpr ⟨e, he, decide_eq_true hname⟩)

/-- The identifier that is not declared is put in front. -/
theorem withIdentifier_of_not_mem {fields : List (String × Field)}
    (h : identifierName ∉ fields.map Prod.fst) :
    withIdentifier fields = (identifierName, { type := .string }) :: fields := by
  refine if_neg fun hany => ?_
  obtain ⟨e, he, hname⟩ := List.any_eq_true.mp hany
  exact h (List.mem_map.mpr ⟨e, he, of_decide_eq_true hname⟩)

/-- The identifier is there in any case. -/
theorem identifierName_mem_withIdentifier (fields : List (String × Field)) :
    identifierName ∈ (withIdentifier fields).map Prod.fst := by
  by_cases h : identifierName ∈ fields.map Prod.fst
  · rwa [withIdentifier_of_mem h]
  · rw [withIdentifier_of_not_mem h]
    exact List.mem_cons_self

/-- With the identifier among them, fields that are declared once are declared once. -/
theorem nodup_withIdentifier {fields : List (String × Field)} (h : (fields.map Prod.fst).Nodup) :
    ((withIdentifier fields).map Prod.fst).Nodup := by
  by_cases hmem : identifierName ∈ fields.map Prod.fst
  · rw [withIdentifier_of_mem hmem]
    exact h
  · rw [withIdentifier_of_not_mem hmem, List.map_cons]
    exact List.nodup_cons.mpr ⟨hmem, h⟩

/-! ## The check accepts the valid drafts -/

/-- The declaration of the identifier passes when it can be one. -/
theorem checkIdentifier_eq_ok_iff {f : Field} : checkIdentifier f = .ok () ↔ f.Identifies := by
  rw [checkIdentifier, ite_error_eq_ok_iff, ite_error_eq_ok_iff, f.isOptional_iff, Field.Identifies]
  simp

/-- A declaration passes with those behind it when it is kept and they pass. -/
theorem checkFields_cons_eq_ok_iff {earlier : List String} {name : String} {f : Field}
    {rest : List (String × Field)} :
    checkFields earlier ((name, f) :: rest) = .ok () ↔
      (name ≠ "" ∧ name ≠ wildcardName) ∧ name ∉ earlier ∧
        (name = identifierName → f.Identifies) ∧ checkFields (name :: earlier) rest = .ok () := by
  rw [checkFields, ite_error_eq_ok_iff, ite_error_eq_ok_iff, ite_error_eq_ok_iff,
    String.isEmpty_iff, and_assoc]
  refine and_congr_right fun _ => and_congr_right fun _ => and_congr_right fun _ => ?_
  by_cases hname : name = identifierName
  · rw [if_pos hname, then_eq_ok_iff, checkIdentifier_eq_ok_iff]
    simp [hname]
  · rw [if_neg hname]
    simp [hname]

/-- Declarations pass when they are named and new, and when the identifier among them can be one. -/
theorem checkFields_eq_ok_iff {earlier : List String} {fields : List (String × Field)} :
    checkFields earlier fields = .ok () ↔
      (∀ e ∈ fields, e.1 ≠ "" ∧ e.1 ≠ wildcardName) ∧ (∀ e ∈ fields, e.1 ∉ earlier) ∧
        (fields.map Prod.fst).Nodup ∧ ∀ f, (identifierName, f) ∈ fields → f.Identifies := by
  induction fields generalizing earlier with
  | nil => simp [checkFields]
  | cons e rest ih =>
      obtain ⟨name, f⟩ := e
      rw [checkFields_cons_eq_ok_iff, ih, List.forall_mem_cons, List.forall_mem_cons, List.map_cons,
        List.nodup_cons]
      constructor
      · rintro ⟨hname, hearlier, hfirst, hnamed, hnew, honce, hrest⟩
        have hfresh : name ∉ rest.map Prod.fst := by
          intro hmem
          obtain ⟨e, he, heq⟩ := List.mem_map.mp hmem
          exact hnew e he (heq ▸ List.mem_cons_self)
        refine ⟨⟨hname, hnamed⟩, ⟨hearlier, fun e he hmem => ?_⟩, ⟨hfresh, honce⟩, fun g hg => ?_⟩
        · exact hnew e he (List.mem_cons_of_mem _ hmem)
        · rcases List.mem_cons.mp hg with hg | hg
          · cases hg
            exact hfirst rfl
          · exact hrest g hg
      · rintro ⟨⟨hname, hnamed⟩, ⟨hearlier, hnew⟩, ⟨hfresh, honce⟩, hidentifier⟩
        refine ⟨hname, hearlier, ?_, hnamed, fun e he hmem => ?_, honce, fun g hg => ?_⟩
        · rintro rfl
          exact hidentifier f List.mem_cons_self
        · rcases List.mem_cons.mp hmem with heq | hmem
          · exact hfresh (List.mem_map.mpr ⟨e, he, heq⟩)
          · exact hnew e he hmem
        · exact hidentifier g (List.mem_cons_of_mem _ hg)

/-- The sorting field passes when it is declared with a numeric type. -/
theorem checkSorting_eq_ok_iff {fields : List (String × Field)} {sorting : Option String}
    (h : (fields.map Prod.fst).Nodup) :
    checkSorting fields sorting = .ok () ↔
      ∀ name, sorting = some name → ∃ f, (name, f) ∈ fields ∧ f.type ∈ numericTypes := by
  rcases sorting with _ | name
  · exact iff_of_true rfl nofun
  · simp only [checkSorting, checkSortingField, Option.some.injEq, forall_eq',
      ← find?_key_eq_some_iff h]
    rcases hfind : fields.find? fun e => e.1 = name with _ | e <;> rw [hfind]
    · simp
    · simp [FieldType.isSortingType_iff]

/-- **Exactly the valid drafts pass the check.** -/
theorem check_eq_ok_iff {d : CollectionDraft} : d.check = .ok () ↔ d.Valid := by
  have hname : ¬ Text.isBlankText d.name = true ↔ ∃ c ∈ d.name.toList, Text.isSpace c = false := by
    rw [Text.isBlankText_iff]
    simp
  rw [check, ite_error_eq_ok_iff, then_eq_ok_iff, checkFields_eq_ok_iff, hname]
  constructor
  · rintro ⟨hname, ⟨hnamed, -, honce, hidentifier⟩, hsorting⟩
    exact ⟨hname, hnamed, honce, hidentifier,
      (checkSorting_eq_ok_iff (nodup_withIdentifier honce)).mp hsorting⟩
  · intro hd
    refine ⟨hd.name, ⟨hd.named, fun _ _ => List.not_mem_nil, hd.once, hd.identifier⟩, ?_⟩
    exact (checkSorting_eq_ok_iff (nodup_withIdentifier hd.once)).mpr hd.sorting

instance (d : CollectionDraft) : Decidable d.Valid :=
  have hok : d.check.isOk = true ↔ d.Valid := by
    rw [← check_eq_ok_iff]
    rcases d.check with e | ⟨⟩ <;> simp [Except.isOk, Except.toBool]
  decidable_of_decidable_of_iff hok

namespace Valid

variable {d : CollectionDraft} (hd : d.Valid)

include hd

/-- The fields with the identifier among them have names of their own. -/
theorem named_withIdentifier :
    ∀ e ∈ withIdentifier d.fields, e.1 ≠ "" ∧ e.1 ≠ wildcardName := by
  by_cases h : identifierName ∈ d.fields.map Prod.fst
  · rw [withIdentifier_of_mem h]
    exact hd.named
  · rw [withIdentifier_of_not_mem h, List.forall_mem_cons]
    exact ⟨by decide, hd.named⟩

/-- The identifier among them can be one. -/
theorem identifies_of_mem_withIdentifier {f : Field}
    (hf : (identifierName, f) ∈ withIdentifier d.fields) : f.Identifies := by
  by_cases h : identifierName ∈ d.fields.map Prod.fst
  · rw [withIdentifier_of_mem h] at hf
    exact hd.identifier f hf
  · rw [withIdentifier_of_not_mem h] at hf
    rcases List.mem_cons.mp hf with hf | hf
    · cases hf
      exact ⟨rfl, nofun, nofun⟩
    · exact absurd (List.mem_map_of_mem hf) h

/-- **A valid draft is still valid with the identifier among its fields.** -/
theorem completed : d.completed.Valid where
  name := hd.name
  named := hd.named_withIdentifier
  once := nodup_withIdentifier hd.once
  identifier _ := hd.identifies_of_mem_withIdentifier
  sorting := by
    rw [CollectionDraft.completed,
      withIdentifier_of_mem (identifierName_mem_withIdentifier d.fields)]
    exact hd.sorting

end Valid

end CollectionDraft

end CollectionSearch
