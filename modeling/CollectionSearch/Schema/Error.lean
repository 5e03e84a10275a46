import CollectionSearch.Decode.Error
import CollectionSearch.Schema.FieldType

/-!
# Schema errors

The rules that the description of a collection may break.

* `SchemaFault` : the causes, and `SchemaFault.message` : their wording.
-/

namespace CollectionSearch

/-- Why a description is no schema. -/
inductive SchemaFault where
  /-- The name of the collection is blank. -/
  | blankName
  /-- The name of a field is empty. -/
  | emptyFieldName
  /-- A field has the name of the catch-all declaration. -/
  | reservedName
  /-- A field is declared again. -/
  | duplicateField (name : String)
  /-- The identifier is no string. -/
  | identifierType (type : FieldType)
  /-- Documents might lack the identifier. -/
  | identifierOptional
  /-- Sorting is by a field that is not declared. -/
  | sortingFieldUndeclared (name : String)
  /-- Sorting is by a field that holds no numbers. -/
  | sortingFieldNotNumeric (name : String) (type : FieldType)
  /-- The JSON form of the collection cannot be read. -/
  | undecodable (error : DecodeError)
  /-- The JSON form of a field cannot be read. -/
  | undecodableField (name : String) (error : DecodeError)

/-- The wording of a fault. -/
def SchemaFault.message : SchemaFault → String
  | blankName => "collection name must not be empty"
  | emptyFieldName => "field name must not be empty"
  | reservedName => "'.*' is reserved for the auto-typed wildcard declaration"
  | duplicateField name => "field '" ++ name ++ "' declared more than once"
  | identifierType type => "'id' must be of type string, got " ++ type.name
  | identifierOptional => "'id' can never be optional"
  | sortingFieldUndeclared name => "default_sorting_field '" ++ name ++ "' is not declared"
  | sortingFieldNotNumeric name type =>
    "default_sorting_field '" ++ name ++ "' must be numeric, got " ++ type.name
  | undecodable error => error.message
  | undecodableField name error => "field '" ++ name ++ "': " ++ error.message

end CollectionSearch
