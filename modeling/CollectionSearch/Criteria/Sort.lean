import CollectionSearch.Decode.Basic
import CollectionSearch.Text.Character
import CollectionSearch.Text.Split

/-!
# Sort specifications

What results are sorted by: a text with keys between commas, or a list of keys. A key is a field
and a direction, `price:desc`; keys whose field begins with an underscore are computed by the
search service.

* `SortSpec` : the specifications. `SortSpec.ofField` makes one key, `SortSpec.andThen` appends one.
* `SortSpec.toParam` : the text that is sent, if there is one.
* `SortSpec.fields` : the fields of the collection that are named.
-/

namespace CollectionSearch

/-- A direction to sort in. -/
inductive SortOrder where
  | asc
  | desc
  deriving DecidableEq

/-- The name of a direction. -/
def SortOrder.name : SortOrder → String
  | asc => "asc"
  | desc => "desc"

/-- What results are sorted by. -/
inductive SortSpec where
  /-- Keys in one text. -/
  | one (keys : String)
  /-- A list of keys. -/
  | many (keys : List String)
  deriving DecidableEq

namespace SortSpec

/-- The key of a field and a direction. -/
def key (field : String) (order : SortOrder) : String := field ++ ":" ++ order.name

/-- A single key. -/
def ofField (field : String) (order : SortOrder) : SortSpec := .one (key field order)

/-- The specification with one key more, which makes it a list. -/
def andThen (spec : SortSpec) (field : String) (order : SortOrder) : SortSpec :=
  match spec with
  | one keys => .many [keys, key field order]
  | many keys => .many (keys ++ [key field order])

/-- The text of the keys. -/
def text : SortSpec → String
  | one keys => keys
  | many keys => ",".intercalate keys

/-- The text that is sent, unless there is nothing to sort by. -/
def toParam (spec : SortSpec) : Option String :=
  if spec.text.isEmpty then none else some spec.text

/-- The keys one by one. -/
def keys : SortSpec → List String
  | one keys => Text.split ',' keys
  | many keys => keys

/-- The field of a key: what stands before the first colon, without blanks around it. -/
def keyField (key : String) : String := Text.trim (Text.beforeFirst ':' key)

/-- Whether a name may be that of a field of the collection. -/
def isFieldName (name : String) : Bool := !name.isEmpty && name.front? ≠ some '_'

/-- The fields of the collection that are named, in order. -/
def fields (spec : SortSpec) : List String := (spec.keys.map keyField).filter isFieldName

/-- A string is one text of keys, an array of strings a list of keys. -/
def ofJson? : Json → Option SortSpec
  | .string s => some (.one s)
  | .array items => (items.mapM Json.string?).map .many
  | _ => none

/-- Reads a specification. -/
def decode {V : Type} [Source V] : Decoder V SortSpec := fun v => do
  match ofJson? (← (Source.verbatim v).mapError .unreadable) with
  | some spec => .ok spec
  | none => .error (.noVariant "SortSpec")

/-- The JSON form. -/
def toJson : SortSpec → Json
  | one keys => .string keys
  | many keys => .ofStrings keys

/-- The JSON form is read back. -/
@[simp] theorem ofJson?_toJson (spec : SortSpec) : ofJson? spec.toJson = some spec := by
  cases spec with
  | one keys => rfl
  | many keys =>
      have h : (keys.map Json.string).mapM Json.string? = some keys := by
        induction keys with
        | nil => rfl
        | cons k rest ih => simp [Json.string?, ih]
      simp [toJson, ofJson?, Json.ofStrings, h]

end SortSpec

end CollectionSearch
