import CollectionSearch.Decode.Record
import CollectionSearch.Schema.FieldType

/-!
# Fields

The description of one field of a collection: its type and the settings given for it. A setting
that is not given is left to the search service.

* `Field`, `Embedding`, `ModelSettings` : the descriptions.
* `Field.isIndexed`, `Field.isOptional`, `Field.isVector`, … : what a description amounts to.
* `Field.toJson`, `Field.decode` : descriptions as JSON.
-/

namespace CollectionSearch

/-! ## Embeddings -/

/-- The model that computes an embedding. -/
structure ModelSettings where
  /-- The name of the model. -/
  name : String
  /-- The key for the provider of the model. -/
  apiKey : Option String := none
  /-- Settings of the provider. -/
  extra : OrderedMap String Json := .empty

/-- The members of the model settings as JSON. Settings of the provider are written over them. -/
def ModelSettings.toJson (m : ModelSettings) : Json :=
  .object (Json.overlay
    (Json.present [("model_name", some (.string m.name)), ("api_key", m.apiKey.map .string)])
    m.extra.entries)

/-- The parts of the model settings. -/
def ModelSettings.record : Record Json (String × Option String) :=
  Prod.mk <$> Record.required "model_name" decodeString
    <*> Record.optional "api_key" decodeString

/-- Reads model settings; what is no part of them goes to the provider. -/
def ModelSettings.decode : Decoder Json ModelSettings := fun j => do
  let ((name, apiKey), extra) ← ModelSettings.record.decodeOpen "ModelConfig" j
  return { name, apiKey, extra }

/-- How a vector is computed from other fields. -/
structure Embedding where
  /-- The fields whose text is embedded. -/
  sources : List String
  /-- The model. -/
  model : ModelSettings

/-- The embedding as JSON. -/
def Embedding.toJson (e : Embedding) : Json :=
  .object [("from", .ofStrings e.sources), ("model_config", e.model.toJson)]

/-- The parts of an embedding. -/
def Embedding.record : Record Json Embedding :=
  Embedding.mk <$> Record.required "from" (decodeList decodeString)
    <*> Record.required "model_config" ModelSettings.decode

/-- Reads an embedding. -/
def Embedding.decode : Decoder Json Embedding := Embedding.record.decode "EmbedConfig"

/-! ## Fields -/

/-- The description of a field. -/
structure Field where
  /-- The type of the values. -/
  type : FieldType
  /-- Whether values are indexed. -/
  index : Option Bool := none
  /-- Whether documents may lack the field. -/
  optional : Option Bool := none
  /-- Whether values are counted as facets. -/
  facet : Option Bool := none
  /-- Whether results may be sorted by the field. -/
  sort : Option Bool := none
  /-- The language whose words the text is cut into. -/
  locale : Option String := none
  /-- Whether parts of words are found. -/
  infixSearch : Option Bool := none
  /-- The number of components of a vector. -/
  dimensions : Option UInt32 := none
  /-- How a vector is computed. -/
  embedding : Option Embedding := none

namespace Field

/-- A vector field with a number of components. -/
def vector (dimensions : UInt32) : Field := { type := .floatArray, dimensions := some dimensions }

/-- A vector field computed from other fields by the named model. -/
def embedded (sources : List String) (model : String) : Field :=
  { type := .floatArray, embedding := some ⟨sources, { name := model }⟩ }

/-- The field with facets counted. -/
def faceted (f : Field) : Field := { f with facet := some true }

/-- The field with sorting allowed. -/
def sorted (f : Field) : Field := { f with sort := some true }

/-- The field, which documents may lack. -/
def asOptional (f : Field) : Field := { f with optional := some true }

/-- The field stored but not indexed. -/
def unindexed (f : Field) : Field := { f with index := some false }

/-- The field with parts of words found. -/
def withInfix (f : Field) : Field := { f with infixSearch := some true }

/-- The field with its text cut by the words of a language. -/
def withLocale (f : Field) (locale : String) : Field := { f with locale := some locale }

/-- Whether values are indexed, which they are unless the description says no. -/
def isIndexed (f : Field) : Bool := f.index ≠ some false

/-- Whether values are counted as facets. -/
def isFacetable (f : Field) : Bool := f.facet = some true

/-- Whether results may be sorted by the field. -/
def isSortable (f : Field) : Bool := f.sort = some true

/-- Whether documents may lack the field. What is not indexed can never be required. -/
def isOptional (f : Field) : Bool := !f.isIndexed || f.optional = some true

/-- Whether the field holds vectors: numbers with a given or a computed shape. -/
def isVector (f : Field) : Bool :=
  f.type = .floatArray && (f.dimensions.isSome || f.embedding.isSome)

/-- The settings as members of a JSON object, in order. -/
def members (f : Field) : List (String × Option Json) :=
  [("type", some f.type.toJson),
    ("index", f.index.map .bool),
    ("optional", f.optional.map .bool),
    ("facet", f.facet.map .bool),
    ("sort", f.sort.map .bool),
    ("locale", f.locale.map .string),
    ("infix", f.infixSearch.map .bool),
    ("num_dim", f.dimensions.map .ofUInt32),
    ("embed", f.embedding.map Embedding.toJson)]

/-- The description as JSON; settings that are not given are left out. -/
def toJson (f : Field) : Json := .ofPresent f.members

/-- The parts of a description. -/
def record : Record Json Field :=
  Field.mk <$> Record.required "type" FieldType.decode
    <*> Record.optional "index" decodeBool
    <*> Record.optional "optional" decodeBool
    <*> Record.optional "facet" decodeBool
    <*> Record.optional "sort" decodeBool
    <*> Record.optional "locale" decodeString
    <*> Record.optional "infix" decodeBool
    <*> Record.optional "num_dim" decodeUInt32
    <*> Record.optional "embed" Embedding.decode

/-- Reads a description. -/
def decode : Decoder Json Field := record.decode "Field"

end Field

end CollectionSearch
