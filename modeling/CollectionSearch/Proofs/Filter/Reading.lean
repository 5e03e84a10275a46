import CollectionSearch.Filter.Reading
import CollectionSearch.Proofs.Except

/-!
# Reading filters member by member

The readers of filters in a form in which each member is read by itself.

* `Json.IsPlain` : strings, truth values and numbers.
* `OperatorMap.readMember`, `Filter.readMember` : how a single member is read.

**Main statements:** `OperatorMap.ofJson_object` and `Filter.ofJson_eq_map` read all members and
make the map then.
-/

namespace CollectionSearch

/-! ## Plain values -/

/-- Whether a value is a string, a truth value or a number. -/
def Json.IsPlain : Json → Prop
  | string _ | bool _ | whole _ | decimal _ => True
  | null | array _ | object _ => False

theorem Json.IsPlain.ne_array {j : Json} (h : j.IsPlain) (items : List Json) :
    j ≠ .array items := by
  rintro rfl
  exact h

theorem Json.IsPlain.ne_object {j : Json} (h : j.IsPlain) (members : List (String × Json)) :
    j ≠ .object members := by
  rintro rfl
  exact h

/-- An operand that is no list is read as a single value. -/
theorem Operand.ofJson_of_ne_array (field : String) {j : Json} (h : ∀ items, j ≠ .array items) :
    Operand.ofJson field j = (FilterScalar.ofJson field j).map .one := by
  cases j <;> first | rfl | exact absurd rfl (h _)

/-- A plain value is read as the value of a field. -/
theorem Predicate.ofJson_of_isPlain (field : String) {j : Json} (h : j.IsPlain) :
    Predicate.ofJson field j = (FilterScalar.ofJson field j).map .scalar := by
  cases j <;> first | rfl | exact h.elim

/-- A list that does not begin with an object is read as a list of values. -/
theorem Predicate.ofJson_array (field : String) {items : List Json}
    (h : ∀ members rest, items ≠ .object members :: rest) :
    Predicate.ofJson field (.array items) =
      (FilterScalar.listOfJson field items).map .anyOf := by
  rcases items with _ | ⟨j, rest⟩
  · rfl
  · cases j <;> first | rfl | exact absurd rfl (h _ rest)

/-! ## Members -/

/-- A comparison has the name under which it is looked up. -/
theorem FilterOperator.ofName?_eq_some_iff {n : String} {op : FilterOperator} :
    ofName? n = some op ↔ op.name = n := by
  constructor
  · intro h
    rw [ofName?] at h
    simpa using List.find?_some h
  · rintro rfl
    exact ofName?_name op

/-- Reads a member of an object of comparisons. -/
def OperatorMap.readMember (field : String) (m : String × Json) :
    Except QueryError (FilterOperator × Operand) :=
  match FilterOperator.ofName? m.1 with
  | none => .error (.unknownOperator field m.1)
  | some op => (Operand.ofJson field m.2).map fun operand => (op, operand)

/-- Reads a member of a filter object. -/
def Filter.readMember (m : String × Json) : Except QueryError (String × Predicate) :=
  (Predicate.ofJson m.1 m.2).map fun p => (m.1, p)

/-- An object of comparisons is the map of its members. -/
theorem OperatorMap.ofJson_object (field : String) (members : List (String × Json)) :
    OperatorMap.ofJson field (.object members) =
      (members.mapM (OperatorMap.readMember field)).map OrderedMap.ofList := by
  refine add_eq_map_foldl (fun _ => rfl) (fun map m rest => ?_) members OrderedMap.empty
  obtain ⟨name, operand⟩ := m
  rw [addMembers, readMember]
  cases FilterOperator.ofName? name with
  | none => rfl
  | some op => cases Operand.ofJson field operand <;> rfl

/-- A filter object is the map of its members. -/
theorem Filter.ofJson_eq_map (members : List (String × Json)) :
    Filter.ofJson (.object members) = (members.mapM Filter.readMember).map OrderedMap.ofList := by
  refine add_eq_map_foldl (fun _ => rfl) (fun f m rest => ?_) members OrderedMap.empty
  obtain ⟨field, j⟩ := m
  rw [addMembers, readMember]
  cases Predicate.ofJson field j <;> rfl

end CollectionSearch
