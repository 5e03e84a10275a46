import CollectionSearch.Decode.Basic
import CollectionSearch.Filter.Basic
import CollectionSearch.QueryError

/-!
# Reading filters

The JSON form of a filter: an object whose members give a field and its predicate, as `null`, a
plain value, a list of plain values, an object of comparisons, or a list of such objects.

* `FilterScalar.ofJson`, `OperatorMap.ofJson`, `Predicate.ofJson` : the parts.
* `Filter.ofJson` : the filter, or the first defect in the order in which the object is written.
* `Filter.decode` : the same as a decoder.
-/

namespace CollectionSearch

/-! ## Plain values -/

/-- The signed 64-bit number that a JSON number is, if it is one. -/
def Json.int64? : Json → Option Int64
  | whole n => n.toInt64?
  | _ => none

/-- The binary number nearest to a JSON number. -/
def Json.double? : Json → Option Double
  | whole n => some (Binary.ofInt binary64 n.val)
  | decimal x => some (.finite x)
  | _ => none

/-- Reads a number. A whole number beyond the signed 64-bit range becomes a binary number. -/
def FilterScalar.ofNumber? (j : Json) : Option FilterScalar :=
  (j.int64?.map .int).or (j.double?.map .float)

/-- Reads a plain value. -/
def FilterScalar.ofJson (field : String) : Json → Except QueryError FilterScalar
  | .string s => .ok (.text s)
  | .bool b => .ok (.bool b)
  | .null => .error (.invalidFilter field .nullInList)
  | .array _ => .error (.invalidFilter field .nestedList)
  | .object _ => .error (.invalidFilter field .unexpectedObject)
  | number =>
    match FilterScalar.ofNumber? number with
    | some value => .ok value
    | none => .error (.invalidFilter field .numberOutOfRange)

/-- Reads a list of plain values. -/
def FilterScalar.listOfJson (field : String) (items : List Json) :
    Except QueryError (List FilterScalar) := items.mapM (FilterScalar.ofJson field)

/-! ## Comparisons -/

/-- Reads what a comparison compares with. -/
def Operand.ofJson (field : String) : Json → Except QueryError Operand
  | .array items => (FilterScalar.listOfJson field items).map .many
  | j => (FilterScalar.ofJson field j).map .one

/-- Reads the members of an object of comparisons and adds them to a map. -/
def OperatorMap.addMembers (field : String) :
    OperatorMap → List (String × Json) → Except QueryError OperatorMap
  | map, [] => .ok map
  | map, (name, operand) :: rest =>
    match FilterOperator.ofName? name with
    | none => .error (.unknownOperator field name)
    | some op =>
      match Operand.ofJson field operand with
      | .error e => .error e
      | .ok operand => addMembers field (map.insert op operand) rest

/-- Reads an object of comparisons. -/
def OperatorMap.ofJson (field : String) : Json → Except QueryError OperatorMap
  | .object members => OperatorMap.addMembers field .empty members
  | _ => .error (.invalidFilter field .notAnOperatorMap)

/-- Reads an item of a list of objects of comparisons. -/
def OperatorMap.ofItem (field : String) : Json → Except QueryError OperatorMap
  | .object members => OperatorMap.ofJson field (.object members)
  | _ => .error (.invalidFilter field .mixedList)

/-! ## Predicates and filters -/

/-- Reads what is said of a field. The first item of a list decides what the list is one of. -/
def Predicate.ofJson (field : String) : Json → Except QueryError Predicate
  | .null => .ok .null
  | .array (.object members :: items) =>
    ((.object members :: items).mapM (OperatorMap.ofItem field)).map .anyOps
  | .array items => (FilterScalar.listOfJson field items).map .anyOf
  | .object members => (OperatorMap.ofJson field (.object members)).map .ops
  | j => (FilterScalar.ofJson field j).map .scalar

/-- Reads the members of a filter object and adds them to a filter. -/
def Filter.addMembers : Filter → List (String × Json) → Except QueryError Filter
  | f, [] => .ok f
  | f, (field, j) :: rest =>
    match Predicate.ofJson field j with
    | .error e => .error e
    | .ok p => addMembers (f.insert field p) rest

/-- Reads a filter. -/
def Filter.ofJson : Json → Except QueryError Filter
  | .object members => Filter.addMembers .empty members
  | _ => .error (.invalidFilter "" .notAnObject)

/-- Reads a filter where values are decoded; its defects are told in their own words. -/
def Filter.decode {V : Type} [Source V] : Decoder V Filter := fun v => do
  (Filter.ofJson (← decodeJson v)).mapError fun e => .rejected e.message

@[simp] theorem Filter.ofJson_object (members : List (String × Json)) :
    Filter.ofJson (.object members) = Filter.addMembers .empty members := rfl

end CollectionSearch
