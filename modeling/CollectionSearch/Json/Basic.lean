import CollectionSearch.Number.Binary
import CollectionSearch.Ordered

/-!
# JSON values

JSON values as the rest of the library passes them around. Objects keep the order of their
members. A number is either a whole number of the 64-bit ranges or a finite 64-bit binary number;
which of the two it is belongs to the value, so that `1` and `1.0` differ.

* `Whole` : the whole numbers between the least signed and the greatest unsigned 64-bit number.
* `Json` : the values.
* `Json.ofDouble` : numbers that are not finite have no JSON form and become `null`.
* `Json.get?` : a member of an object by name.
* `Json.Distinct` : no object inside the value repeats a name.
-/

namespace CollectionSearch

/-! ## Whole numbers -/

/-- A whole number in the signed or the unsigned 64-bit range. -/
structure Whole where
  /-- The number. -/
  val : Int
  /-- It lies in one of the two ranges. -/
  inRange : -9223372036854775808 ≤ val ∧ val < 18446744073709551616
  deriving DecidableEq

namespace Whole

/-- The whole number of an integer, if it is in range. -/
def ofInt? (n : Int) : Option Whole :=
  if h : -9223372036854775808 ≤ n ∧ n < 18446744073709551616 then some ⟨n, h⟩ else none

/-- The whole number of an unsigned 32-bit word. -/
def ofUInt32 (n : UInt32) : Whole :=
  ⟨n.toNat, by have := n.toNat_lt; omega⟩

/-- The whole number of an unsigned 64-bit word. -/
def ofUInt64 (n : UInt64) : Whole :=
  ⟨n.toNat, by have := n.toNat_lt; omega⟩

/-- The whole number of a signed 64-bit word. -/
def ofInt64 (n : Int64) : Whole :=
  ⟨n.toInt, by have := n.toInt_lt; have := n.le_toInt; omega⟩

/-- The unsigned 32-bit word of a whole number, if it fits. -/
def toUInt32? (n : Whole) : Option UInt32 :=
  if 0 ≤ n.val ∧ n.val < 4294967296 then some (UInt32.ofNat n.val.toNat) else none

/-- The unsigned 64-bit word of a whole number, if it fits. -/
def toUInt64? (n : Whole) : Option UInt64 :=
  if 0 ≤ n.val then some (UInt64.ofNat n.val.toNat) else none

/-- The signed 64-bit word of a whole number, if it fits. -/
def toInt64? (n : Whole) : Option Int64 :=
  if n.val < 9223372036854775808 then some (Int64.ofInt n.val) else none

@[ext] theorem ext {m n : Whole} (h : m.val = n.val) : m = n := by
  cases m
  cases n
  cases h
  rfl

@[simp] theorem toUInt32?_ofUInt32 (n : UInt32) : (ofUInt32 n).toUInt32? = some n := by
  have := n.toNat_lt
  have h : (0 : Int) ≤ (n.toNat : Int) ∧ (n.toNat : Int) < 4294967296 := by omega
  simp [toUInt32?, ofUInt32, h]

@[simp] theorem toUInt64?_ofUInt64 (n : UInt64) : (ofUInt64 n).toUInt64? = some n := by
  simp [toUInt64?, ofUInt64]

@[simp] theorem toInt64?_ofInt64 (n : Int64) : (ofInt64 n).toInt64? = some n := by
  have := n.toInt_lt
  have h : n.toInt < 9223372036854775808 := by omega
  simp [toInt64?, ofInt64, h]

end Whole

/-! ## Values -/

/-- A JSON value. -/
inductive Json where
  | null
  | bool (b : Bool)
  | whole (n : Whole)
  | decimal (x : FiniteBinary binary64)
  | string (s : String)
  | array (items : List Json)
  | object (members : List (String × Json))

namespace Json

/-- The value of an unsigned 32-bit word. -/
def ofUInt32 (n : UInt32) : Json := whole (Whole.ofUInt32 n)

/-- The value of an unsigned 64-bit word. -/
def ofUInt64 (n : UInt64) : Json := whole (Whole.ofUInt64 n)

/-- The value of a 64-bit binary number; `null` if it is not finite. -/
def ofDouble : Double → Json
  | .finite x => decimal x
  | _ => null

/-- The value of a 32-bit binary number, widened; `null` if it is not finite. -/
def ofSingle (x : Single) : Json := ofDouble (x.convert binary64)

/-- The array of strings. -/
def ofStrings (l : List String) : Json := array (l.map string)

/-- A member of an object by name; `none` for every other value. -/
def get? (j : Json) (name : String) : Option Json :=
  match j with
  | object members => (members.find? fun m => m.1 = name).map Prod.snd
  | _ => none

/-- The string, if the value is one. -/
def string? : Json → Option String
  | string s => some s
  | _ => none

/-- The members whose value is present. -/
def present (members : List (String × Option Json)) : List (String × Json) :=
  members.filterMap fun m => m.2.map fun v => (m.1, v)

/-- The object made of the members whose value is present. -/
def ofPresent (members : List (String × Option Json)) : Json := object (present members)

/-- The members with others written over them: in place where the name occurs, else at the end. -/
def overlay (members others : List (String × Json)) : List (String × Json) :=
  others.foldl (fun acc m => setEntry m.1 m.2 acc) members

mutual

/-- Whether no object inside the value has two members of one name. -/
def Distinct : Json → Prop
  | null => True
  | bool _ => True
  | whole _ => True
  | decimal _ => True
  | string _ => True
  | array items => DistinctItems items
  | object members => (members.map Prod.fst).Nodup ∧ DistinctMembers members

/-- Distinctness of every item of a list. -/
def DistinctItems : List Json → Prop
  | [] => True
  | j :: rest => j.Distinct ∧ DistinctItems rest

/-- Distinctness of the value of every member of a list. -/
def DistinctMembers : List (String × Json) → Prop
  | [] => True
  | (_, j) :: rest => j.Distinct ∧ DistinctMembers rest

end

@[simp] theorem get?_object (members : List (String × Json)) (name : String) :
    (object members).get? name = (members.find? fun m => m.1 = name).map Prod.snd := rfl

end Json

end CollectionSearch
