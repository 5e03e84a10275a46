import CollectionSearch.Decode.Basic

/-!
# Field types

The types a field of a collection may have.

* `FieldType` : the types; `FieldType.name` : their names; `FieldType.all` : all of them.
* `FieldType.isStringLike`, `FieldType.isArray`, `FieldType.isSortingType` : their classes.
* `FieldType.decode` : a type by its name.
-/

namespace CollectionSearch

/-- The type of a field. -/
inductive FieldType where
  | string
  | stringArray
  /-- A string or an array of strings. -/
  | stringAny
  | int32
  | int32Array
  | int64
  | int64Array
  | float
  | floatArray
  | bool
  | boolArray
  | geopoint
  | geopointArray
  | object
  | objectArray
  /-- Found out from the first document. -/
  | auto
  deriving DecidableEq

namespace FieldType

/-- All types. -/
def all : List FieldType :=
  [string, stringArray, stringAny, int32, int32Array, int64, int64Array, float, floatArray, bool,
    boolArray, geopoint, geopointArray, object, objectArray, auto]

/-- The name of a type in declarations. -/
def name : FieldType → String
  | string => "string"
  | stringArray => "string[]"
  | stringAny => "string*"
  | int32 => "int32"
  | int32Array => "int32[]"
  | int64 => "int64"
  | int64Array => "int64[]"
  | float => "float"
  | floatArray => "float[]"
  | bool => "bool"
  | boolArray => "bool[]"
  | geopoint => "geopoint"
  | geopointArray => "geopoint[]"
  | object => "object"
  | objectArray => "object[]"
  | auto => "auto"

/-- Whether free text is matched against fields of the type. -/
def isStringLike : FieldType → Bool
  | string | stringArray | stringAny => true
  | _ => false

/-- Whether fields of the type hold several values. -/
def isArray : FieldType → Bool
  | stringArray | stringAny | int32Array | int64Array | floatArray | boolArray | geopointArray
  | objectArray => true
  | _ => false

/-- Whether results may be sorted by a field of the type by default. -/
def isSortingType : FieldType → Bool
  | int32 | int64 | float => true
  | _ => false

/-- The type as JSON. -/
def toJson (t : FieldType) : Json := .string t.name

/-- Reads a type by its name. -/
def decode : Decoder Json FieldType := decodeWord (all.map fun t => (t.name, t))

/-- Reading a type's JSON gives the type back. -/
@[simp] theorem decode_toJson (t : FieldType) : decode t.toJson = .ok t := by
  cases t <;> rfl

end FieldType

end CollectionSearch
