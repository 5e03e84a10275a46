import CollectionSearch.Filter.Expression
import CollectionSearch.Schema.Collection
import CollectionSearch.Signal

/-!
# Signals of filters

What is reported when a filter is written as an expression: fields that the schema does not
declare, text values with a character that the expression uses itself, and how many clauses there
are.

* `delimiters` : the characters an expression uses itself.
* `Predicate.scalars` : the values of a predicate in the order of the expression.
* `Filter.compileSignals`, `Filter.compileSignalsFor` : the signals.
-/

namespace CollectionSearch

/-- The characters that a filter expression uses itself. -/
def delimiters : List Char := [',', ':', '(', ')', '[', ']', '&', '|', '\x60']

/-- Whether a text has a character that a filter expression uses itself. -/
def hasDelimiter (s : String) : Bool := s.toList.any fun c => delimiters.contains c

/-- The values that a comparison compares with. -/
def Operand.scalars : Operand → List FilterScalar
  | one value => [value]
  | many values => values

/-- The values of a map of comparisons. -/
def OperatorMap.scalars (map : OperatorMap) : List FilterScalar :=
  map.entries.flatMap fun e => e.2.scalars

/-- The values of a predicate, in the order in which the expression has them. -/
def Predicate.scalars : Predicate → List FilterScalar
  | null => []
  | scalar value => [value]
  | anyOf values => values
  | ops map => OperatorMap.scalars map
  | anyOps maps => maps.flatMap OperatorMap.scalars

/-- The warning for a value that would be misread. -/
def FilterScalar.warning? (field : String) : FilterScalar → Option Event
  | text s => if hasDelimiter s then some (.unescapedValue field s) else none
  | _ => none

/-- The warnings of a filter, in the order of its values. -/
def Filter.warnings (f : Filter) : List Event :=
  f.entries.flatMap fun e => e.2.scalars.filterMap (FilterScalar.warning? e.1)

/-- The signals of writing a filter as an expression. -/
def Filter.compileSignals (f : Filter) : List Signal :=
  f.warnings.map .event ++
    [.sample (.filterCompiled f.clauses.isEmpty), .sample (.filterClauses f.clauses.length)]

/-- The fields of which something is said though the schema does not declare them. -/
def Filter.undeclared (f : Filter) (s : CollectionSchema) : List String :=
  (f.entries.filter fun e => !e.2.isDropped && !s.declares e.1).map Prod.fst

/-- The signals of writing a filter as an expression for a collection. -/
def Filter.compileSignalsFor (f : Filter) (s : CollectionSchema) : List Signal :=
  (f.undeclared s).map (fun field => .event (.undeclaredField s.name field)) ++ f.compileSignals

end CollectionSearch
