import CollectionSearch.Schema.Draft

/-!
# Collections

The schema of a collection: its name, its fields in order of declaration, and what can be done
with each of them. A schema is made of a draft that breaks no rule, and says so itself.

* `CollectionSchema` : a finished schema; `CollectionSchema.draft` : what it says, as a draft.
* `CollectionSchema.searchable`, `facetable`, `sortable`, `vectors` : the fields by capability.
* `CollectionDraft.schema` : the schema of a valid draft; `CollectionDraft.build` : the schema or
  the first rule that is broken.
* `CollectionSchema.ofJson` : a schema from its JSON form.

**Main statements:** `schema_draft` says that a schema is the one of what it says, and
`build_eq_ok_iff` that exactly the valid drafts are built, to their schemas.
-/

namespace CollectionSearch

/-! ## Schemas -/

/-- The finished description of a collection. -/
@[ext] structure CollectionSchema where
  /-- The name of the collection. -/
  name : String
  /-- The fields by name, in order of declaration. -/
  fields : OrderedMap String Field
  /-- The characters that part words, if not the usual ones. -/
  separators : Option (List String)
  /-- The field that results are sorted by when nothing else is said. -/
  sortingField : Option String
  /-- No rule is broken: there are names, the identifier is a string that no document may lack, and
  results can be sorted by the sorting field. -/
  valid : (CollectionDraft.mk name fields.entries separators sortingField).Valid
  /-- The identifier is among the fields. -/
  identified : identifierName ∈ fields.keys

namespace CollectionSchema

/-- The description of a declared field. -/
def field? (s : CollectionSchema) (name : String) : Option Field := s.fields.get? name

/-- Whether a field is declared. -/
def declares (s : CollectionSchema) (name : String) : Bool := (s.field? name).isSome

/-- The names of the fields with a property, in order of declaration. -/
def namesWhere (s : CollectionSchema) (p : String → Field → Bool) : List String :=
  (s.fields.entries.filter fun e => p e.1 e.2).map Prod.fst

/-- Whether free text is matched against a field: indexed and string-like, but neither the
identifier nor the catch-all. -/
def isSearchable (name : String) (f : Field) : Bool :=
  f.isIndexed && f.type.isStringLike && name ≠ identifierName && name ≠ wildcardName

/-- The fields that free text is matched against. -/
def searchable (s : CollectionSchema) : List String := s.namesWhere isSearchable

/-- The fields whose values are counted as facets. -/
def facetable (s : CollectionSchema) : List String := s.namesWhere fun _ f => f.isFacetable

/-- The fields that results may be sorted by. -/
def sortable (s : CollectionSchema) : List String := s.namesWhere fun _ f => f.isSortable

/-- The fields that hold vectors. -/
def vectors (s : CollectionSchema) : List String := s.namesWhere fun _ f => f.isVector

end CollectionSchema

/-! ## Building -/

/-- What a schema says, as a draft. -/
def CollectionSchema.draft (s : CollectionSchema) : CollectionDraft :=
  ⟨s.name, s.fields.entries, s.separators, s.sortingField⟩

namespace CollectionDraft

/-- The schema of a valid draft. -/
def schema (d : CollectionDraft) (h : d.Valid) : CollectionSchema where
  name := d.name
  fields := ⟨withIdentifier d.fields, nodup_withIdentifier h.once⟩
  separators := d.separators
  sortingField := d.sortingField
  valid := h.completed
  identified := identifierName_mem_withIdentifier d.fields

/-- The schema, or the first rule that is broken. -/
def build (d : CollectionDraft) : Except SchemaFault CollectionSchema :=
  match h : d.check with
  | .ok () => .ok (d.schema (check_eq_ok_iff.mp h))
  | .error fault => .error fault

/-- Exactly the valid drafts are built, to their schemas. -/
theorem build_eq_ok_iff {d : CollectionDraft} {s : CollectionSchema} :
    d.build = .ok s ↔ ∃ h : d.Valid, s = d.schema h := by
  unfold build
  split
  case h_1 h =>
    rw [Except.ok.injEq, eq_comm]
    exact ⟨fun hs => ⟨check_eq_ok_iff.mp h, hs⟩, fun ⟨_, hs⟩ => hs⟩
  case h_2 h =>
    exact iff_of_false nofun fun ⟨hd, _⟩ => nomatch h.symm.trans (check_eq_ok_iff.mpr hd)

/-- The others are refused with what the check says. -/
theorem build_eq_error_iff_check_eq_error {d : CollectionDraft} {fault : SchemaFault} :
    d.build = .error fault ↔ d.check = .error fault := by
  unfold build
  split
  case h_1 h => exact iff_of_false nofun fun hfault => nomatch h.symm.trans hfault
  case h_2 h => rw [h, Except.error.injEq, Except.error.injEq]

end CollectionDraft

/-- A schema is the one of what it says. -/
theorem CollectionSchema.schema_draft (s : CollectionSchema) : s.draft.schema s.valid = s := by
  have hfields : (s.draft.schema s.valid).fields = s.fields :=
    OrderedMap.ext (CollectionDraft.withIdentifier_of_mem s.identified)
  exact CollectionSchema.ext rfl hfields rfl rfl

/-- What a schema says is built to the schema again. -/
theorem CollectionSchema.build_draft (s : CollectionSchema) : s.draft.build = .ok s :=
  CollectionDraft.build_eq_ok_iff.mpr ⟨s.valid, s.schema_draft.symm⟩

/-! ## The JSON form -/

/-- The JSON form of a schema before its fields are read. -/
structure SchemaForm where
  /-- The name of the collection. -/
  name : String
  /-- The fields by name, each still as JSON. -/
  fields : List (String × Json)
  /-- The characters that part words. -/
  separators : Option (List String)
  /-- The field that results are sorted by. -/
  sortingField : Option String

/-- The parts of the JSON form. -/
def SchemaForm.record : Record Json SchemaForm :=
  SchemaForm.mk <$> Record.required "name" decodeString
    <*> Record.required "fields" decodeMembers
    <*> Record.optional "token_separators" (decodeList decodeString)
    <*> Record.optional "default_sorting_field" decodeString

/-- Reads the JSON form. -/
def SchemaForm.decode : Decoder Json SchemaForm := SchemaForm.record.decode "RawCollectionSchema"

/-- Reads the fields of a JSON form in order. -/
def SchemaForm.readFields (members : List (String × Json)) :
    Except SchemaFault (List (String × Field)) :=
  members.mapM fun m => do
    let f ← (Field.decode m.2).mapError (.undecodableField m.1)
    return (m.1, f)

/-- The schema that a JSON value describes. -/
def CollectionSchema.ofJson (j : Json) : Except SchemaFault CollectionSchema := do
  let form ← (SchemaForm.decode j).mapError .undecodable
  let fields ← SchemaForm.readFields form.fields
  CollectionDraft.build {
    name := form.name
    fields := fields
    separators := form.separators
    sortingField := form.sortingField }

end CollectionSearch
