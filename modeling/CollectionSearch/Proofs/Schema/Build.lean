import CollectionSearch.Proofs.Ordered
import CollectionSearch.Proofs.Schema.Rules
import Mathlib.Data.List.Induction

/-!
# What builders make

Which drafts the calls of a builder leave, and what is known of a schema because it was made of a
draft that breaks no rule.

* `DraftCall`, `CollectionDraft.ofCalls` : the calls of a builder, and the draft that is left.
* `CollectionSchema.Lists` : whether names are those of the fields with a property, in order.
* `CollectionSchema.WellFormed` : what every schema fulfils.

**Main statements:** `build_ofCalls` says which calls are accepted, what comes of them, and which
fault the others have; `wellFormed` and `declares_empty` what is known of every schema.
-/

namespace CollectionSearch

/-! ## Builder calls -/

/-- A call of the builder of a schema. -/
inductive DraftCall where
  /-- Declares a field. -/
  | declare (name : String) (f : Field)
  /-- Declares a plain string field. -/
  | string (name : String)
  /-- Declares a string field with facets. -/
  | facetString (name : String)
  /-- Declares a floating-point field to sort by. -/
  | sortFloat (name : String)
  /-- Declares a 64-bit integer field to sort by. -/
  | sortInt64 (name : String)
  /-- Declares a vector field. -/
  | vector (name : String) (dimensions : UInt32)
  /-- Sets the characters that part words. -/
  | separateBy (separators : List String)
  /-- Sets the field that results are sorted by. -/
  | sortBy (name : String)

namespace DraftCall

/-- What a call does to a draft. -/
def run (d : CollectionDraft) : DraftCall → CollectionDraft
  | declare name f => d.declare name f
  | string name => d.string name
  | facetString name => d.facetString name
  | sortFloat name => d.sortFloat name
  | sortInt64 name => d.sortInt64 name
  | vector name dimensions => d.vector name dimensions
  | separateBy separators => d.separateBy separators
  | sortBy name => d.sortBy name

/-- The field that a call declares. -/
def declared? : DraftCall → Option (String × Field)
  | declare name f => some (name, f)
  | string name => some (name, { type := .string })
  | facetString name => some (name, { type := .string, facet := some true })
  | sortFloat name => some (name, { type := .float, sort := some true })
  | sortInt64 name => some (name, { type := .int64, sort := some true })
  | vector name dimensions => some (name, { type := .floatArray, dimensions := some dimensions })
  | separateBy _ => none
  | sortBy _ => none

/-- The separators that a call sets. -/
def separators? : DraftCall → Option (List String)
  | separateBy separators => some separators
  | _ => none

/-- The sorting field that a call sets. -/
def sorting? : DraftCall → Option String
  | sortBy name => some name
  | _ => none

/-- A call adds the field that it declares and replaces what it sets. -/
theorem run_eq (d : CollectionDraft) (call : DraftCall) :
    call.run d = ⟨d.name, d.fields ++ call.declared?.toList, call.separators?.or d.separators,
      call.sorting?.or d.sortingField⟩ := by
  cases call <;> simp [run, declared?, separators?, sorting?, CollectionDraft.declare,
    CollectionDraft.string, CollectionDraft.facetString, CollectionDraft.sortFloat,
    CollectionDraft.sortInt64, CollectionDraft.vector, CollectionDraft.separateBy,
    CollectionDraft.sortBy, Field.vector, Field.faceted, Field.sorted]

end DraftCall

/-- The draft that the calls of a builder leave, one after the other. -/
def CollectionDraft.ofCalls (name : String) (calls : List DraftCall) : CollectionDraft :=
  calls.foldl DraftCall.run { name := name }

/-- The draft has the fields that were declared, in the order of the calls, and what was set
last. -/
theorem CollectionDraft.ofCalls_eq (name : String) (calls : List DraftCall) :
    ofCalls name calls = ⟨name, calls.filterMap DraftCall.declared?,
      (calls.filterMap DraftCall.separators?).getLast?,
      (calls.filterMap DraftCall.sorting?).getLast?⟩ := by
  induction calls using List.reverseRecOn with
  | nil => rfl
  | append_singleton calls call ih =>
      have hrun : ofCalls name (calls ++ [call]) = call.run (ofCalls name calls) := by
        rw [ofCalls, List.foldl_append]
        rfl
      have hlast : ∀ {α : Type} (f : DraftCall → Option α),
          ((calls ++ [call]).filterMap f).getLast? =
            (f call).or (calls.filterMap f).getLast? := by
        intro α f
        rw [List.filterMap_append, List.getLast?_append]
        cases hf : f call <;> simp [hf]
      have hdeclared : (calls ++ [call]).filterMap DraftCall.declared? =
          calls.filterMap DraftCall.declared? ++ call.declared?.toList := by
        rw [List.filterMap_append]
        cases hf : call.declared? <;> simp [hf]
      rw [hrun, ih, DraftCall.run_eq, hlast, hlast, hdeclared]

/-! ## Schemas -/

namespace CollectionSchema

/-- Whether names are those of the fields with a property, each once and in the order of their
declaration. -/
structure Lists (s : CollectionSchema) (names : List String) (P : String → Field → Prop) :
    Prop where
  /-- No name stands twice. -/
  nodup : names.Nodup
  /-- The names stand in the order of the fields. -/
  ordered : names.Sublist s.fields.keys
  /-- Exactly the fields with the property are named. -/
  mem_iff : ∀ name, name ∈ names ↔ ∃ f, s.field? name = some f ∧ P name f

/-- What every schema fulfils. -/
structure WellFormed (s : CollectionSchema) : Prop where
  /-- The fields have distinct names. -/
  distinct : s.fields.keys.Nodup
  /-- Exactly one of them is the identifier. -/
  identified : s.fields.keys.count identifierName = 1
  /-- It can be one. -/
  identifies : ∃ f, s.field? identifierName = some f ∧ f.Identifies
  /-- Free text is matched against the indexed string-like fields but the identifier. -/
  searchable : s.Lists s.searchable fun name f =>
    f.index ≠ some false ∧ f.type ∈ [.string, .stringArray, .stringAny] ∧ name ≠ identifierName
  /-- Facets are counted for the fields that say so. -/
  facetable : s.Lists s.facetable fun _ f => f.facet = some true
  /-- Results may be sorted by the fields that say so. -/
  sortable : s.Lists s.sortable fun _ f => f.sort = some true
  /-- Vectors are in the arrays of numbers with a given or a computed shape. -/
  vectors : s.Lists s.vectors fun _ f =>
    f.type = .floatArray ∧ (f.dimensions ≠ none ∨ f.embedding ≠ none)

/-- The fields with a property, in order. -/
theorem lists_namesWhere {s : CollectionSchema} {p : String → Field → Bool}
    {P : String → Field → Prop}
    (h : ∀ name f, s.field? name = some f → (p name f = true ↔ P name f)) :
    s.Lists (s.namesWhere p) P := by
  have hsub : (s.namesWhere p).Sublist s.fields.keys := List.filter_sublist.map Prod.fst
  refine ⟨s.fields.distinct.sublist hsub, hsub, fun name => ?_⟩
  simp only [namesWhere, List.mem_map, List.mem_filter, field?]
  constructor
  · rintro ⟨e, ⟨he, hp⟩, rfl⟩
    have hfield : s.fields.get? e.1 = some e.2 := s.fields.get?_eq_some_iff.mpr he
    exact ⟨e.2, hfield, (h e.1 e.2 hfield).mp hp⟩
  · rintro ⟨f, hfield, hP⟩
    exact ⟨(name, f), ⟨s.fields.get?_eq_some_iff.mp hfield, (h name f hfield).mpr hP⟩, rfl⟩

/-- The declared names are the keys of the fields. -/
theorem declares_iff (s : CollectionSchema) (name : String) :
    s.declares name = true ↔ name ∈ s.fields.keys := s.fields.isSome_get?_iff name

/-- The identifier of a schema can be one. -/
theorem exists_identifies (s : CollectionSchema) :
    ∃ f, (identifierName, f) ∈ s.fields.entries ∧ f.Identifies := by
  obtain ⟨⟨_, f⟩, hf, rfl⟩ := List.mem_map.mp s.identified
  exact ⟨f, hf, s.valid.identifier f hf⟩

/-- The fields of a schema have names of their own. -/
theorem named_of_mem_keys (s : CollectionSchema) {name : String} (h : name ∈ s.fields.keys) :
    name ≠ "" ∧ name ≠ wildcardName := by
  obtain ⟨e, he, rfl⟩ := List.mem_map.mp h
  exact s.valid.named e he

/-- **No field of a schema has an empty name.** -/
theorem declares_empty (s : CollectionSchema) : s.declares "" = false := by
  rw [Bool.eq_false_iff, ne_eq, declares_iff]
  exact fun hmem => (s.named_of_mem_keys hmem).1 rfl

/-- **Every schema is well-formed.** -/
theorem wellFormed (s : CollectionSchema) : s.WellFormed where
  distinct := s.fields.distinct
  identified := List.count_eq_one_of_mem s.fields.distinct s.identified
  identifies := s.exists_identifies.imp fun _ hf => ⟨s.fields.get?_eq_some_iff.mpr hf.1, hf.2⟩
  searchable := lists_namesWhere fun name f hfield => by
    have hname : name ≠ wildcardName :=
      (s.named_of_mem_keys
        ((s.fields.isSome_get?_iff name).mp (Option.isSome_of_eq_some hfield))).2
    have htype : f.type.isStringLike = true ↔ f.type ∈ [.string, .stringArray, .stringAny] := by
      cases f.type <;> decide
    simp [isSearchable, Field.isIndexed, htype, hname, and_assoc]
  facetable := lists_namesWhere fun _ _ _ => decide_eq_true_iff
  sortable := lists_namesWhere fun _ _ _ => decide_eq_true_iff
  vectors := lists_namesWhere fun _ f _ => by
    simp [Field.isVector, Option.isSome_iff_ne_none]

/-- Whether a schema has what a draft says, with a plain string field as its identifier in front
unless one is declared. -/
structure Completes (s : CollectionSchema) (d : CollectionDraft) : Prop where
  /-- The name is the same. -/
  name_eq : s.name = d.name
  /-- The separators are. -/
  separators_eq : s.separators = d.separators
  /-- The sorting field is. -/
  sortingField_eq : s.sortingField = d.sortingField
  /-- Fields with an identifier among them are taken as they are. -/
  entries_of_mem : identifierName ∈ d.fields.map Prod.fst → s.fields.entries = d.fields
  /-- To other fields the identifier is added. -/
  entries_of_not_mem : identifierName ∉ d.fields.map Prod.fst →
    s.fields.entries = (identifierName, { type := .string }) :: d.fields

end CollectionSchema

/-- The schema of a draft has what the draft says. -/
theorem CollectionDraft.completes_schema {d : CollectionDraft} (h : d.Valid) :
    (d.schema h).Completes d where
  name_eq := rfl
  separators_eq := rfl
  sortingField_eq := rfl
  entries_of_mem := withIdentifier_of_mem
  entries_of_not_mem := withIdentifier_of_not_mem

/-- **The calls of a builder are accepted exactly when the draft that they leave is valid.** The
schema then has the fields in the order of the calls, with the identifier among them, and its lists
are those of the fields that they are for. Other calls have the fault of the first rule that the
draft breaks. -/
theorem build_ofCalls (name : String) (calls : List DraftCall) :
    CollectionDraft.ofCalls name calls = ⟨name, calls.filterMap DraftCall.declared?,
        (calls.filterMap DraftCall.separators?).getLast?,
        (calls.filterMap DraftCall.sorting?).getLast?⟩ ∧
      ((∃ s, (CollectionDraft.ofCalls name calls).build = .ok s) ↔
        (CollectionDraft.ofCalls name calls).Valid) ∧
      (∀ s, (CollectionDraft.ofCalls name calls).build = .ok s →
        s.Completes (CollectionDraft.ofCalls name calls) ∧ s.WellFormed) ∧
      ∀ fault, (CollectionDraft.ofCalls name calls).build = .error fault ↔
        FirstBroken (CollectionDraft.ofCalls name calls).rules fault := by
  refine ⟨CollectionDraft.ofCalls_eq name calls, ⟨?_, ?_⟩, ?_, fun fault => ?_⟩
  · rintro ⟨s, hs⟩
    exact (CollectionDraft.build_eq_ok_iff.mp hs).1
  · intro hd
    exact ⟨_, CollectionDraft.build_eq_ok_iff.mpr ⟨hd, rfl⟩⟩
  · intro s hs
    obtain ⟨hd, rfl⟩ := CollectionDraft.build_eq_ok_iff.mp hs
    exact ⟨CollectionDraft.completes_schema hd, CollectionSchema.wellFormed _⟩
  · exact CollectionDraft.build_eq_error_iff

/-- Calls that declare fields of several kinds and set separators and the sorting field twice. -/
def DraftCall.samples : List DraftCall :=
  [.facetString "brand", .separateBy ["-"], .sortFloat "price", .sortBy "brand",
    .declare "sku" { type := .string, index := some false }, .vector "shape" 4, .sortBy "price",
    .separateBy ["/"]]

/-- The calls are accepted. A string field that is not indexed is not searched. With the brand
declared again by a later call, the first rule that is broken is not that of the sorting field. -/
theorem build_ofCalls_samples :
    (∃ s, (CollectionDraft.ofCalls "products" DraftCall.samples).build = .ok s ∧ s.WellFormed ∧
        s.searchable = ["brand"] ∧ s.sortingField = some "price" ∧ s.separators = some ["/"]) ∧
      FirstBroken (CollectionDraft.ofCalls "products"
        (DraftCall.samples ++ [.string "brand", .sortBy "weight"])).rules
        (.duplicateField "brand") := by
  obtain ⟨-, -, hschema, -⟩ := build_ofCalls "products" DraftCall.samples
  obtain ⟨-, -, -, hfault⟩ :=
    build_ofCalls "products" (DraftCall.samples ++ [.string "brand", .sortBy "weight"])
  refine ⟨⟨_, rfl, (hschema _ rfl).2, ?_, ?_, ?_⟩, (hfault _).mp rfl⟩
  · decide
  · decide
  · decide

end CollectionSearch
