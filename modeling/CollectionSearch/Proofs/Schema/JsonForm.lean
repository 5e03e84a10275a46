import CollectionSearch.Proofs.Decode.Record
import CollectionSearch.Proofs.Schema.Build
import CollectionSearch.Schema.Declaration

/-!
# Schemas in JSON

Fields, declarations and schemas are written as the records that they are read as. The settings of a
model are written among its own parts, so that they come back only under other names.

* `Embedding.Portable`, `Field.Portable`, `CollectionSchema.Portable` : whether no setting of a
  model has the name of a part.
* `CollectionSchema.toJson` : the JSON form of a schema.

**Main statements:** `ofJson_toJson_schema` says that schemas and their declarations are read back
from their JSON forms.
-/

namespace CollectionSearch

/-! ## Embeddings -/

/-- Whether no setting of the provider has the name of a part of the model settings. -/
def Embedding.Portable (e : Embedding) : Prop :=
  ∀ k ∈ e.model.extra.keys, k ≠ "model_name" ∧ k ≠ "api_key"

/-- Whether that is so for the embedding of a field, if there is one. -/
def Field.Portable (f : Field) : Prop := ∀ e ∈ f.embedding, e.Portable

/-- Whether that is so for the fields of a schema. -/
def CollectionSchema.Portable (s : CollectionSchema) : Prop :=
  ∀ e ∈ s.fields.entries, e.2.Portable

instance (e : Embedding) : Decidable e.Portable := by unfold Embedding.Portable; infer_instance

instance (f : Field) : Decidable f.Portable := Option.decidableForallMem f.embedding

instance (s : CollectionSchema) : Decidable s.Portable := by
  unfold CollectionSchema.Portable; infer_instance

/-- What is written for the parts of model settings. -/
def ModelSettings.members (m : ModelSettings) : List (String × Option Json) :=
  [("model_name", some (.string m.name)), ("api_key", m.apiKey.map .string)]

/-- The parts of model settings are read as they are written. -/
theorem ModelSettings.reads (m : ModelSettings) :
    ModelSettings.record.Reads m.members (m.name, m.apiKey) :=
  ((Record.Reads.required (decodeString_string m.name)).map Prod.mk).seq
    (Record.Reads.optional fun key _ => ⟨decodeString_string key, nofun⟩)

/-- An embedding is read back with its model and the settings of the provider. -/
theorem Embedding.decode_toJson {e : Embedding} (h : e.Portable) : decode e.toJson = .ok e := by
  have hnodup : (e.model.members.map Prod.fst).Nodup := by
    simp [ModelSettings.members]
  have hnew : ∀ k ∈ e.model.extra.keys, k ∉ e.model.members.map Prod.fst := by
    intro k hk hmem
    simp only [ModelSettings.members, List.map_cons, List.map_nil, List.mem_cons,
      List.not_mem_nil, or_false] at hmem
    exact hmem.elim (h k hk).1 (h k hk).2
  have hmodel : ModelSettings.decode e.model.toJson = .ok e.model := by
    have hopen := e.model.reads.decodeOpen_append hnodup hnew "ModelConfig"
    rw [← Json.overlay_eq_append (Record.nodup_present_append hnodup hnew)] at hopen
    show (ModelSettings.record.decodeOpen "ModelConfig" e.model.toJson >>= _) = _
    rw [show ModelSettings.record.decodeOpen "ModelConfig" e.model.toJson = _ from hopen]
    rfl
  have hreads : Embedding.record.Reads
      [("from", some (.ofStrings e.sources)), ("model_config", some e.model.toJson)] e :=
    ((Record.Reads.required (decodeList_ofStrings e.sources)).map Embedding.mk).seq
      (Record.Reads.required hmodel)
  exact hreads.decode_ofPresent (by simp) "EmbedConfig"

/-! ## Fields and declarations -/

/-- The parts of a field are read as they are written. -/
theorem Field.reads {f : Field} (h : f.Portable) : Field.record.Reads f.members f :=
  ((Record.Reads.required f.type.decode_toJson).map Field.mk)
    |>.seq (Record.Reads.optional fun b _ => ⟨decodeBool_bool b, nofun⟩)
    |>.seq (Record.Reads.optional fun b _ => ⟨decodeBool_bool b, nofun⟩)
    |>.seq (Record.Reads.optional fun b _ => ⟨decodeBool_bool b, nofun⟩)
    |>.seq (Record.Reads.optional fun b _ => ⟨decodeBool_bool b, nofun⟩)
    |>.seq (Record.Reads.optional fun s _ => ⟨decodeString_string s, nofun⟩)
    |>.seq (Record.Reads.optional fun b _ => ⟨decodeBool_bool b, nofun⟩)
    |>.seq (Record.Reads.optional fun n _ => ⟨decodeUInt32_ofUInt32 n, nofun⟩)
    |>.seq (Record.Reads.optional fun e he => ⟨Embedding.decode_toJson (h e he), nofun⟩)

/-- A field is read back from its JSON form, with what is not set left so. -/
theorem Field.decode_toJson {f : Field} (h : f.Portable) : decode f.toJson = .ok f :=
  (Field.reads h).decode_ofPresent (by simp [members]) "Field"

/-- The declaration of a field is read back from its JSON form. -/
theorem FieldDeclaration.decode_toJson {d : FieldDeclaration} (h : d.field.Portable) :
    decode d.toJson = .ok d := by
  have hreads : FieldDeclaration.record.Reads
      (("name", some (.string d.name)) :: d.field.members) d :=
    ((Record.Reads.required (decodeString_string d.name)).map FieldDeclaration.mk).seq
      (Field.reads h)
  exact hreads.decode_ofPresent (by simp [Field.members]) "FieldDeclaration"

/-- The declaration of a collection is read back from its JSON form. -/
theorem CollectionDeclaration.decode_toJson {d : CollectionDeclaration}
    (h : ∀ f ∈ d.fields, f.field.Portable) : decode d.toJson = .ok d := by
  have hfields : decodeList FieldDeclaration.decode
      (.array (d.fields.map FieldDeclaration.toJson)) = .ok d.fields :=
    decodeList_map fun f hf => FieldDeclaration.decode_toJson (h f hf)
  have hreads : CollectionDeclaration.record.Reads
      [("name", some (.string d.name)),
        ("fields", some (.array (d.fields.map FieldDeclaration.toJson))),
        ("token_separators", some (.ofStrings d.separators)),
        ("default_sorting_field", d.sortingField.map .string)] d :=
    ((Record.Reads.required (decodeString_string d.name)).map CollectionDeclaration.mk)
      |>.seq (Record.Reads.required hfields)
      |>.seq (Record.Reads.required (decodeList_ofStrings d.separators))
      |>.seq (Record.Reads.optional fun name _ => ⟨decodeString_string name, nofun⟩)
  exact hreads.decode_ofPresent (by simp) "CollectionDeclaration"

/-- The declarations of a schema are those of fields whose models are the same. -/
theorem CollectionSchema.portable_of_mem_fieldDeclarations {s : CollectionSchema}
    (h : s.Portable) : ∀ d ∈ s.fieldDeclarations, d.field.Portable := by
  intro d hd
  rcases List.mem_cons.mp hd with rfl | hd
  · exact nofun
  · obtain ⟨e, he, rfl⟩ := List.mem_map.mp hd
    exact h e he

/-! ## Schemas -/

/-- The members of the fields of a schema, in order. -/
def CollectionSchema.fieldMembers (s : CollectionSchema) : List (String × Json) :=
  s.fields.entries.map fun e => (e.1, e.2.toJson)

/-- The JSON form of a schema: its name, its fields as an object in order, and what is set. -/
def CollectionSchema.toJson (s : CollectionSchema) : Json :=
  .ofPresent [("name", some (.string s.name)), ("fields", some (.object s.fieldMembers)),
    ("token_separators", s.separators.map .ofStrings),
    ("default_sorting_field", s.sortingField.map .string)]

/-- The fields of a schema are read back from their members. -/
theorem SchemaForm.readFields_fieldMembers {s : CollectionSchema} (h : s.Portable) :
    readFields s.fieldMembers = .ok s.fields.entries := by
  have hread : ∀ e ∈ s.fields.entries, (do
      let f ← (Field.decode e.2.toJson).mapError (SchemaFault.undecodableField e.1)
      return (e.1, f) : Except SchemaFault (String × Field)) = .ok (id e) := by
    intro e he
    rw [Field.decode_toJson (h e he)]
    rfl
  have hmembers : readFields s.fieldMembers = .ok (s.fields.entries.map id) :=
    mapM_map_of_forall hread
  rw [hmembers, List.map_id]

/-- The JSON form of a schema is read as what the schema says. -/
theorem SchemaForm.decode_toJson (s : CollectionSchema) :
    SchemaForm.decode s.toJson = .ok ⟨s.name, s.fieldMembers, s.separators, s.sortingField⟩ := by
  have hfields : decodeMembers (Json.object s.fieldMembers) = .ok s.fieldMembers := rfl
  have hreads : SchemaForm.record.Reads
      [("name", some (.string s.name)), ("fields", some (.object s.fieldMembers)),
        ("token_separators", s.separators.map .ofStrings),
        ("default_sorting_field", s.sortingField.map .string)]
      ⟨s.name, s.fieldMembers, s.separators, s.sortingField⟩ :=
    ((Record.Reads.required (decodeString_string s.name)).map SchemaForm.mk)
      |>.seq (Record.Reads.required hfields)
      |>.seq (Record.Reads.optional fun l _ => ⟨decodeList_ofStrings l, nofun⟩)
      |>.seq (Record.Reads.optional fun name _ => ⟨decodeString_string name, nofun⟩)
  exact hreads.decode_ofPresent (by simp) "RawCollectionSchema"

/-- **Schemas are read back from their JSON form, and so are their declarations.** -/
theorem ofJson_toJson_schema {s : CollectionSchema} (h : s.Portable) :
    CollectionSchema.ofJson s.toJson = .ok s ∧
      CollectionDeclaration.decode s.toDeclaration.toJson = .ok s.toDeclaration := by
  refine ⟨?_, CollectionDeclaration.decode_toJson
    (CollectionSchema.portable_of_mem_fieldDeclarations h)⟩
  unfold CollectionSchema.ofJson
  rw [SchemaForm.decode_toJson]
  simp only [Except.mapError, bind, Except.bind, SchemaForm.readFields_fieldMembers h]
  exact s.build_draft

/-- A draft with settings of every kind, with settings of the provider of a model among them. -/
def CollectionDraft.embedded : CollectionDraft :=
  let extra := OrderedMap.empty.insert "url" (Json.string "https://models") |>.insert "prefix"
    (.object [("index", .array [.null, .bool false])])
  let model : ModelSettings := { name := "e5", apiKey := some "secret", extra := extra }
  CollectionDraft.mk "products" [] none none
    |>.declare "brand" { type := .string, facet := some true, locale := some "de" }
    |>.declare "brand vector" { type := .floatArray, embedding := some ⟨["brand"], model⟩ }
    |>.declare "shape" (Field.vector 4)
    |>.declare "price" { type := .float, sort := some true, index := some true }
    |>.separateBy ["-"] |>.sortBy "price"

/-- The schema of this draft and its declaration are read back from their JSON forms. -/
theorem ofJson_toJson_schema_embedded :
    let s := CollectionDraft.embedded.schema (by decide)
    CollectionDraft.embedded.build = .ok s ∧ s.Portable ∧
      CollectionSchema.ofJson s.toJson = .ok s ∧
      CollectionDeclaration.decode s.toDeclaration.toJson = .ok s.toDeclaration := by
  intro s
  have hportable : s.Portable := by decide
  exact ⟨rfl, hportable, ofJson_toJson_schema hportable⟩

end CollectionSearch
