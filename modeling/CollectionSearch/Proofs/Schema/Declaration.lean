import CollectionSearch.Proofs.Schema.Build
import CollectionSearch.Schema.Declaration

/-!
# What a schema declares

A schema is declared field by field behind the catch-all, each field as it is described except that
its optionality is spelled out. A declaration may be taken for a description again: what it declares
makes a schema that says no more than the declaration does, and that is declared in the same way.

* `FieldDeclaration.Declares`, `CollectionSchema.DeclaredBy` : whether declarations are those of a
  field, or of all fields of a schema.
* `CollectionSchema.spelledOut` : the schema that says what the declaration of a schema says.
* `CollectionDeclaration.calls` : the calls of a builder that declare again what was declared.

**Main statements:** `declaredBy_fieldDeclarations` describes the declarations of a schema,
`toDeclaration_spelledOut` and `namesWhere_spelledOut` that spelling a schema out changes neither
its declaration nor what its fields can do, and `rebuild_toDeclaration` puts both to use for the
schema that is made of a declaration.
-/

namespace CollectionSearch

/-! ## Fields -/

namespace Field

/-- The field with its optionality spelled out. -/
def spelledOut (f : Field) : Field := { f with optional := some f.isOptional }

@[simp] theorem isOptional_spelledOut (f : Field) : f.spelledOut.isOptional = f.isOptional := by
  have hiff : f.spelledOut.isOptional = true ↔ f.isOptional = true ∨ f.index = some false := by
    rw [isOptional_iff, spelledOut, Option.some.injEq]
  rw [Bool.eq_iff_iff, hiff]
  -- a field that is not indexed is optional already
  exact or_iff_left_of_imp fun hindex => f.isOptional_iff.mpr (.inr hindex)

/-- What is spelled out stays as it is. -/
@[simp] theorem spelledOut_spelledOut (f : Field) : f.spelledOut.spelledOut = f.spelledOut := by
  rw [spelledOut, isOptional_spelledOut]
  rfl

/-- A field that is not indexed is spelled out as optional. -/
theorem optional_spelledOut_of_index {f : Field} (h : f.index = some false) :
    f.spelledOut.optional = some true :=
  congrArg some (f.isOptional_iff.mpr (.inr h))

/-- An identifier is spelled out as one that no document may lack. -/
theorem Identifies.optional_spelledOut {f : Field} (h : f.Identifies) :
    f.spelledOut.optional = some false := by
  refine congrArg some (Bool.eq_false_iff.mpr fun hoptional => ?_)
  exact (f.isOptional_iff.mp hoptional).elim h.2.1 h.2.2

/-- An identifier may be spelled out. -/
theorem Identifies.spelledOut {f : Field} (h : f.Identifies) : f.spelledOut.Identifies := by
  refine ⟨h.1, ?_, h.2.2⟩
  rw [h.optional_spelledOut]
  decide

end Field

/-- Whether a declaration has the name of a field and describes it as it was described, with its
optionality spelled out. -/
structure FieldDeclaration.Declares (d : FieldDeclaration) (e : String × Field) : Prop where
  /-- The name is that of the field. -/
  name_eq : d.name = e.1
  /-- Nothing but the optionality differs from the description. -/
  field_eq : d.field = { e.2 with optional := d.field.optional }
  /-- The optionality is what the description amounts to. -/
  optional_eq : d.field.optional = some e.2.isOptional

/-! ## Schemas -/

/-- The values of an ordered map replaced. -/
def OrderedMap.mapValues {κ α β : Type} (g : α → β) (m : OrderedMap κ α) : OrderedMap κ β where
  entries := m.entries.map fun e => (e.1, g e.2)
  distinct := by
    rw [List.map_map]
    exact m.distinct

/-- The keys stay as they are. -/
theorem OrderedMap.keys_mapValues {κ α β : Type} (m : OrderedMap κ α) (g : α → β) :
    (m.mapValues g).keys = m.keys := List.map_map ..

namespace CollectionSchema

/-- Whether declarations are those of a schema. -/
structure DeclaredBy (s : CollectionSchema) (l : List FieldDeclaration) : Prop where
  /-- There is one more than there are fields. -/
  length_eq : l.length = s.fields.size + 1
  /-- The catch-all stands in front. -/
  head_eq : l.head? = some .wildcard
  /-- It stands nowhere else. -/
  wildcard_once : (l.map FieldDeclaration.name).count wildcardName = 1
  /-- No name is declared twice. -/
  distinct : (l.map FieldDeclaration.name).Nodup
  /-- Behind the catch-all the fields are declared in order. -/
  fields : List.Forall₂ FieldDeclaration.Declares l.tail s.fields.entries
  /-- A field that is not indexed is declared as optional. -/
  unindexed : ∀ d ∈ l, d.field.index = some false → d.field.optional = some true
  /-- The identifier is declared, -/
  identified : identifierName ∈ l.map FieldDeclaration.name
  /-- and never as optional. -/
  required : ∀ d ∈ l, d.name = identifierName → d.field.optional = some false

/-- The schema with the optionality of its fields and its separators spelled out. -/
def spelledOut (s : CollectionSchema) : CollectionSchema where
  name := s.name
  fields := s.fields.mapValues Field.spelledOut
  separators := some (s.separators.getD usualSeparators)
  sortingField := s.sortingField
  valid := {
    name := s.valid.name
    named := List.forall_mem_map.mpr s.valid.named
    once := (s.fields.mapValues Field.spelledOut).distinct
    identifier := by
      intro f hf
      obtain ⟨e, he, heq⟩ := List.mem_map.mp hf
      obtain ⟨hname, rfl⟩ := Prod.mk.inj heq
      exact (s.valid.identifier e.2 (hname ▸ he)).spelledOut
    sorting := by
      intro name hname
      obtain ⟨f, hf, htype⟩ := s.valid.sorting name hname
      have hmem : identifierName ∈ (s.fields.mapValues Field.spelledOut).keys :=
        (s.fields.keys_mapValues Field.spelledOut).symm ▸ s.identified
      rw [CollectionDraft.withIdentifier_of_mem s.identified] at hf
      rw [CollectionDraft.withIdentifier_of_mem hmem]
      exact ⟨f.spelledOut, List.mem_map_of_mem hf, htype⟩ }
  identified := (s.fields.keys_mapValues Field.spelledOut).symm ▸ s.identified

theorem entries_spelledOut (s : CollectionSchema) :
    s.spelledOut.fields.entries = s.fields.entries.map fun e => (e.1, e.2.spelledOut) := rfl

/-- The fields behind the catch-all are declared spelled out. -/
theorem fieldDeclarations_eq (s : CollectionSchema) :
    s.fieldDeclarations = .wildcard :: s.fields.entries.map fun e => ⟨e.1, e.2.spelledOut⟩ := rfl

/-- The names that are declared. -/
theorem map_name_fieldDeclarations (s : CollectionSchema) :
    s.fieldDeclarations.map FieldDeclaration.name = wildcardName :: s.fields.keys := by
  rw [fieldDeclarations_eq, List.map_cons, List.map_map]
  rfl

/-- The declarations of a schema are those of its fields, behind the catch-all. -/
theorem declaredBy_fieldDeclarations (s : CollectionSchema) : s.DeclaredBy s.fieldDeclarations := by
  have hwildcard : wildcardName ∉ s.fields.keys := fun hmem => (s.named_of_mem_keys hmem).2 rfl
  have hnodup : (s.fieldDeclarations.map FieldDeclaration.name).Nodup := by
    rw [map_name_fieldDeclarations]
    exact List.nodup_cons.mpr ⟨hwildcard, s.fields.distinct⟩
  have hwild : wildcardName ∈ s.fieldDeclarations.map FieldDeclaration.name := by
    rw [map_name_fieldDeclarations]
    exact List.mem_cons_self
  refine ⟨s.length_fieldDeclarations, rfl, List.count_eq_one_of_mem hnodup hwild, hnodup,
    ?_, ?_, ?_, ?_⟩
  · rw [fieldDeclarations_eq, List.tail_cons, List.forall₂_map_left_iff, List.forall₂_same]
    exact fun e _ => ⟨rfl, rfl, rfl⟩
  · intro d hd hindex
    rw [fieldDeclarations_eq] at hd
    rcases List.mem_cons.mp hd with rfl | hd
    · cases hindex
    · obtain ⟨e, -, rfl⟩ := List.mem_map.mp hd
      exact Field.optional_spelledOut_of_index hindex
  · rw [map_name_fieldDeclarations]
    exact List.mem_cons_of_mem _ s.identified
  · intro d hd hname
    rw [fieldDeclarations_eq] at hd
    rcases List.mem_cons.mp hd with rfl | hd
    · exact absurd hname (by decide)
    · obtain ⟨⟨_, f⟩, hf, rfl⟩ := List.mem_map.mp hd
      obtain rfl : _ = identifierName := hname
      exact (s.valid.identifier f hf).optional_spelledOut

/-- **The declaration of a schema does not change when the schema is spelled out.** -/
theorem toDeclaration_spelledOut (s : CollectionSchema) :
    s.spelledOut.toDeclaration = s.toDeclaration := by
  have hfields : s.spelledOut.fieldDeclarations = s.fieldDeclarations := by
    rw [fieldDeclarations_eq, fieldDeclarations_eq, entries_spelledOut, List.map_map]
    refine congrArg (FieldDeclaration.wildcard :: ·) (List.map_congr_left fun e _ => ?_)
    exact congrArg (FieldDeclaration.mk e.1) e.2.spelledOut_spelledOut
  rw [toDeclaration, hfields]
  rfl

/-- **Neither do the fields with a property that does not depend on how optionality is given.** -/
theorem namesWhere_spelledOut (s : CollectionSchema) {p : String → Field → Bool}
    (hp : ∀ name f, p name f.spelledOut = p name f) :
    s.spelledOut.namesWhere p = s.namesWhere p := by
  rw [namesWhere, namesWhere, entries_spelledOut, List.filter_map, List.map_map]
  refine congrArg (List.map Prod.fst) (List.filter_congr fun e _ => ?_)
  exact hp e.1 e.2

end CollectionSchema

/-! ## Declaring again -/

namespace CollectionDeclaration

/-- The calls of a builder that declare again what was declared behind the catch-all. -/
def calls (d : CollectionDeclaration) : List DraftCall :=
  d.fields.tail.map (fun f => .declare f.name f.field) ++
    .separateBy d.separators :: d.sortingField.toList.map .sortBy

/-- The draft that they leave. -/
theorem ofCalls_calls (d : CollectionDeclaration) :
    CollectionDraft.ofCalls d.name d.calls =
      ⟨d.name, d.fields.tail.map fun f => (f.name, f.field), some d.separators,
        d.sortingField⟩ := by
  rw [CollectionDraft.ofCalls_eq, calls]
  simp only [List.filterMap_append, List.filterMap_cons, List.filterMap_map]
  cases d.sortingField <;> simp [Function.comp_def, DraftCall.declared?, DraftCall.separators?,
    DraftCall.sorting?]

/-- Of a schema they leave what the schema says when it is spelled out. -/
theorem ofCalls_calls_toDeclaration (s : CollectionSchema) :
    CollectionDraft.ofCalls s.name s.toDeclaration.calls = s.spelledOut.draft := by
  refine (ofCalls_calls s.toDeclaration).trans ?_
  rw [CollectionSchema.toDeclaration, CollectionSchema.fieldDeclarations_eq, List.tail_cons,
    List.map_map]
  rfl

end CollectionDeclaration

/-- **The declaration of a schema says all that matters of it.** The catch-all is declared first and
then the fields of the schema, each once and as it is described, with its optionality spelled out.
Calls that declare the same again, with the separators and the sorting field of the declaration, are
accepted. The schema that they make is declared in the same way, and the same fields can be
searched, sorted by, counted or hold vectors. -/
theorem rebuild_toDeclaration (s : CollectionSchema) :
    s.DeclaredBy s.toDeclaration.fields ∧
      ∃ s', (CollectionDraft.ofCalls s.toDeclaration.name s.toDeclaration.calls).build = .ok s' ∧
        s'.toDeclaration = s.toDeclaration ∧ s'.searchable = s.searchable ∧
        s'.facetable = s.facetable ∧ s'.sortable = s.sortable ∧ s'.vectors = s.vectors := by
  refine ⟨s.declaredBy_fieldDeclarations, s.spelledOut, ?_, s.toDeclaration_spelledOut, ?_, ?_, ?_,
    ?_⟩
  · refine (congrArg _ (CollectionDeclaration.ofCalls_calls_toDeclaration s)).trans ?_
    exact s.spelledOut.build_draft
  all_goals exact s.namesWhere_spelledOut fun _ _ => rfl

/-- A draft with a field that is not indexed but said to be required, one that is said to be
optional, and no separators. -/
def CollectionDraft.stock : CollectionDraft :=
  CollectionDraft.mk "products" [] none none
    |>.declare "sku" { type := .string, index := some false, optional := some false }
    |>.declare "brand" (Field.asOptional { type := .string, facet := some true })
    |>.sortFloat "price" |>.vector "shape" 4 |>.sortBy "price"

/-- Its schema is declared with the usual separators and spelled out. The schema made of the
declaration says so itself, and brands are searched in both. -/
theorem rebuild_toDeclaration_stock :
    let s := CollectionDraft.stock.schema (by decide)
    CollectionDraft.stock.build = .ok s ∧
      s.toDeclaration.fields.map FieldDeclaration.name =
        [".*", "id", "sku", "brand", "price", "shape"] ∧
      s.toDeclaration.fields.map (fun d => d.field.optional) =
        [none, some false, some true, some true, some false, some false] ∧
      s.DeclaredBy s.toDeclaration.fields ∧
      ∃ s', (CollectionDraft.ofCalls "products" s.toDeclaration.calls).build = .ok s' ∧
        s'.toDeclaration = s.toDeclaration ∧ s'.searchable = ["brand"] ∧
        s'.vectors = ["shape"] := by
  intro s
  obtain ⟨hdeclared, s', hs', hsame, hsearchable, -, -, hvectors⟩ := rebuild_toDeclaration s
  exact ⟨by rfl, by rfl, by rfl, hdeclared, s', hs', hsame, hsearchable.trans (by rfl),
    hvectors.trans (by rfl)⟩

end CollectionSearch
