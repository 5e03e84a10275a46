import CollectionSearch.Number.Decimal
import CollectionSearch.Ordered

/-!
# Filters

A filter names fields and says of each what its values must satisfy. The order of the fields is
part of the filter, since the filter expression lists its clauses in that order.

* `FilterOperator`, `FilterScalar`, `Operand`, `OperatorMap` : comparisons and what they compare
  with.
* `Predicate` : what is said of one field; `Predicate.isDropped` : whether that is nothing.
* `Filter` : fields with their predicates. `Filter.eq`, `Filter.anyOf`, `Filter.ops`,
  `Filter.anyOps` and `Filter.null` set the predicate of a field.
-/

namespace CollectionSearch

/-! ## Comparisons -/

/-- A comparison. -/
inductive FilterOperator where
  | eq
  /-- The value holds the words of the operand. -/
  | contains
  | neq
  | gt
  | gte
  | lt
  | lte
  deriving DecidableEq

namespace FilterOperator

/-- All comparisons. -/
def all : List FilterOperator := [eq, contains, neq, gt, gte, lt, lte]

/-- The name of a comparison in operator maps. -/
def name : FilterOperator → String
  | eq => "eq"
  | contains => "contains"
  | neq => "neq"
  | gt => "gt"
  | gte => "gte"
  | lt => "lt"
  | lte => "lte"

/-- What stands between field and operand in a filter expression. -/
def token : FilterOperator → String
  | eq => ":="
  | contains => ":"
  | neq => ":!="
  | gt => ":>"
  | gte => ":>="
  | lt => ":<"
  | lte => ":<="

/-- The comparison of a name, in exactly that spelling. -/
def ofName? (n : String) : Option FilterOperator := all.find? fun op => op.name = n

@[simp] theorem ofName?_name (op : FilterOperator) : ofName? op.name = some op := by
  cases op <;> rfl

end FilterOperator

/-- A single value that fields are compared with. -/
inductive FilterScalar where
  | text (s : String)
  | int (n : Int64)
  | float (x : Double)
  | bool (b : Bool)
  deriving DecidableEq

/-- What a comparison compares with: one value or any of several. -/
inductive Operand where
  | one (value : FilterScalar)
  | many (values : List FilterScalar)
  deriving DecidableEq

/-- Comparisons that must all hold, each of them at most once. -/
abbrev OperatorMap : Type := OrderedMap FilterOperator Operand

/-! ## Predicates -/

/-- What is said of the values of one field. -/
inductive Predicate where
  /-- Nothing. -/
  | null
  /-- They equal a value. -/
  | scalar (value : FilterScalar)
  /-- They equal one of the values. -/
  | anyOf (values : List FilterScalar)
  /-- All of the comparisons hold. -/
  | ops (map : OperatorMap)
  /-- All comparisons of one of the maps hold. -/
  | anyOps (maps : List OperatorMap)

/-- Whether a predicate says nothing, so that the expression has no clause for it. -/
def Predicate.isDropped : Predicate → Bool
  | null => true
  | scalar _ => false
  | anyOf values => values.isEmpty
  | ops map => map.isEmpty
  | anyOps maps => maps.all OrderedMap.isEmpty

/-! ## Filters -/

/-- Fields with the predicates that must all hold. -/
abbrev Filter : Type := OrderedMap String Predicate

namespace Filter

/-- The filter that says nothing. -/
def empty : Filter := OrderedMap.empty

/-- Values of the field equal a value. -/
def eq (f : Filter) (field : String) (value : FilterScalar) : Filter :=
  f.insert field (.scalar value)

/-- Values of the field equal one of the values. -/
def anyOf (f : Filter) (field : String) (values : List FilterScalar) : Filter :=
  f.insert field (.anyOf values)

/-- All of the comparisons hold for the field. -/
def ops (f : Filter) (field : String) (map : OperatorMap) : Filter := f.insert field (.ops map)

/-- All comparisons of one of the maps hold for the field. -/
def anyOps (f : Filter) (field : String) (maps : List OperatorMap) : Filter :=
  f.insert field (.anyOps maps)

/-- Nothing is said of the field. -/
def null (f : Filter) (field : String) : Filter := f.insert field .null

end Filter

end CollectionSearch
