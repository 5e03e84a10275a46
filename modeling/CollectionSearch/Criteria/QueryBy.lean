import CollectionSearch.Decode.Basic

/-!
# Weighted fields

The fields that free text is matched against, each with a weight. A field stands once, at the
place where it was first named.

* `QueryBy` : fields with weights. `QueryBy.field` adds a field or changes its weight.
* `QueryBy.decode` : the JSON form, an object of weights by field.
* `QueryBy.fieldsParam`, `QueryBy.weightsParam` : the fields and the weights as they are sent,
  two lists in step.
-/

namespace CollectionSearch

/-- Fields with weights. -/
abbrev QueryBy : Type := OrderedMap String UInt32

namespace QueryBy

/-- No field. -/
def empty : QueryBy := OrderedMap.empty

/-- Adds a field, or changes its weight when it is there already. -/
def field (q : QueryBy) (name : String) (weight : UInt32) : QueryBy := q.insert name weight

/-- Reads a weight. -/
def weight (name : String) (j : Json) : Except DecodeError UInt32 :=
  let bad := DecodeError.rejected ("weight for '" ++ name ++ "' must be a non-negative integer")
  match j with
  | .whole n =>
    match n.toUInt32? with
    | some w => .ok w
    | none => .error bad
  | _ => .error bad

/-- Reads fields with weights from the members of an object and adds them. -/
def addMembers : QueryBy → List (String × Json) → Except DecodeError QueryBy
  | q, [] => .ok q
  | q, (name, j) :: rest =>
    match weight name j with
    | .error e => .error e
    | .ok w => addMembers (q.field name w) rest

/-- Reads fields with weights. -/
def decode {V : Type} [Source V] : Decoder V QueryBy := fun v => do
  addMembers empty (← decodeMembers v)

/-- The JSON form. -/
def toJson (q : QueryBy) : Json := .object (q.entries.map fun e => (e.1, .ofUInt32 e.2))

/-- The fields as they are sent. -/
def fieldsParam (q : QueryBy) : String := ",".intercalate q.keys

/-- The weights as they are sent, in the order of the fields. -/
def weightsParam (q : QueryBy) : String :=
  ",".intercalate (q.entries.map fun e => toString e.2.toNat)

theorem weight_whole (name : String) {n : Whole} {w : UInt32} (h : n.toUInt32? = some w) :
    weight name (.whole n) = .ok w := by
  simp only [weight, h]

/-- A weight is read back from its JSON form. -/
@[simp] theorem weight_ofUInt32 (name : String) (w : UInt32) :
    weight name (.ofUInt32 w) = .ok w := weight_whole name (Whole.toUInt32?_ofUInt32 w)

end QueryBy

end CollectionSearch
