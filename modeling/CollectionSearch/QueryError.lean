import CollectionSearch.Schema.Error

/-!
# Query errors

Why a query cannot be sent: it does not describe a filter, a schema, or a search that the fields
of the collection allow. No later attempt with the same query can succeed.

* `FilterFault` : what is wrong with a filter value.
* `QueryError` : the causes, and `QueryError.message` : their wording.
-/

namespace CollectionSearch

/-- What is wrong with a value inside a filter. -/
inductive FilterFault where
  /-- The filter itself is no object. -/
  | notAnObject
  /-- A list of operator maps has another item. -/
  | mixedList
  /-- An operator map is no object. -/
  | notAnOperatorMap
  /-- A number has no binary number nearest to it. -/
  | numberOutOfRange
  /-- A list has an item `null`. -/
  | nullInList
  /-- A list stands inside a list. -/
  | nestedList
  /-- An object stands where a plain value must. -/
  | unexpectedObject
  deriving DecidableEq

/-- The wording of a filter fault. -/
def FilterFault.message : FilterFault → String
  | notAnObject => "filter must be a JSON object"
  | mixedList => "cannot mix operator maps and plain values in one list"
  | notAnOperatorMap => "expected an operator map"
  | numberOutOfRange => "number out of range"
  | nullInList => "null is not allowed inside a value list"
  | nestedList => "nested lists are not supported"
  | unexpectedObject => "unexpected object"

/-- Why a query cannot be sent. -/
inductive QueryError where
  /-- An operator map has a name that is no operator. -/
  | unknownOperator (field operator : String)
  /-- The value of a field, or the whole filter when the field is empty, is no predicate. -/
  | invalidFilter (field : String) (fault : FilterFault)
  /-- A description is no schema. -/
  | invalidSchema (fault : SchemaFault)
  /-- Free text is not matched against the field. -/
  | notSearchable (field : String)
  /-- Results cannot be sorted by the field. -/
  | notSortable (field : String)
  /-- The values of the field are not counted. -/
  | notFacetable (field : String)
  /-- The field holds no vectors. -/
  | notVector (field : String)

/-- The wording of a query error. -/
def QueryError.message : QueryError → String
  | unknownOperator field operator =>
    "Unknown filter operator '" ++ operator ++ "' on field '" ++ field ++
      "' (expected one of eq, contains, neq, gt, gte, lt, lte)"
  | invalidFilter field fault => "Invalid filter value for '" ++ field ++ "': " ++ fault.message
  | invalidSchema fault => "Invalid schema: " ++ fault.message
  | notSearchable field => "Field '" ++ field ++ "' is not searchable"
  | notSortable field => "Field '" ++ field ++ "' is not sortable"
  | notFacetable field => "Field '" ++ field ++ "' is not facetable"
  | notVector field => "Field '" ++ field ++ "' is not a vector field"

end CollectionSearch
