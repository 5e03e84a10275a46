import CollectionSearch.Decode.Error
import CollectionSearch.Json.Outline

/-!
# What decoders read

Decoders work on two things: a JSON value that is there in full, and the outline of a text, which
may break off. Both offer one view, so each decoder is written once and reports, over a text,
whichever comes first: a value that does not suit it or a fault of the text.

* `View` : one level of a value.
* `Source` : what can be viewed, with instances for `Json` and `Outline`.
-/

namespace CollectionSearch

open Json (Fault)

/-- A member of an object under view. -/
structure Member (V : Type) where
  /-- Its name. -/
  name : String
  /-- Its value. -/
  value : V
  /-- What stops a reader that passes over the value. -/
  passing : Option Fault

/-- One level of a value. -/
inductive View (V : Type) where
  | null
  | bool (b : Bool)
  | whole (n : Whole)
  | decimal (x : FiniteBinary binary64)
  | string (s : String)
  /-- The items up to the end or the fault. -/
  | array (items : List V) (breach : Option Fault)
  /-- The members up to the end or the fault. -/
  | object (members : List (Member V)) (breach : Option Fault)
  /-- Nothing can be read here. -/
  | broken (fault : Fault)

/-- What decoders read. -/
class Source (V : Type) where
  /-- The first level. -/
  view : V → View V
  /-- The whole value, of several members of one name the last at the place of the first. -/
  value : V → Except Fault Json
  /-- The whole value with every member as it stands. -/
  verbatim : V → Except Fault Json
  /-- The error for an array with more elements than are asked for. -/
  surplus : Nat → DecodeError

/-- The first level of a JSON value. -/
def Json.view : Json → View Json
  | null => .null
  | bool b => .bool b
  | whole n => .whole n
  | decimal x => .decimal x
  | string s => .string s
  | array items => .array items none
  | object members => .object (members.map fun m => ⟨m.1, m.2, none⟩) none

instance : Source Json where
  view := Json.view
  value := .ok
  verbatim := .ok
  surplus n := .invalidLength n .fewerElements

/-- The first level of an outline. -/
def Outline.view : Outline → View Outline
  | scalar .null => .null
  | scalar (.bool b) => .bool b
  | scalar (.whole n) => .whole n
  | scalar (.decimal x) => .decimal x
  | scalar (.string s) => .string s
  | scalar (.array items) => .array (items.map .scalar) none
  | scalar (.object members) => .object (members.map fun m => ⟨m.1, .scalar m.2, none⟩) none
  | text s => .string s
  | array items breach => .array items breach
  | object members breach => .object (members.map fun m => ⟨m.1, m.2.1, m.2.2⟩) breach
  | broken f => .broken f

instance : Source Outline where
  view := Outline.view
  value := Outline.read true
  verbatim := Outline.read false
  surplus _ := .unreadable .malformed

/-- The kind of what is under view, or the fault when there is nothing. -/
def View.found {V : Type} : View V → Except Fault Found
  | .null => .ok .null
  | .bool b => .ok (.bool b)
  | .whole n => .ok (.whole n)
  | .decimal x => .ok (.decimal x)
  | .string s => .ok (.string s)
  | .array _ _ => .ok .sequence
  | .object _ _ => .ok .map
  | .broken f => .error f

/-- The error for a value of another kind than expected. -/
def View.mismatch {V : Type} (v : View V) (expected : Expected) : DecodeError :=
  match v.found with
  | .ok found => .invalidType found expected
  | .error f => .unreadable f

@[simp] theorem Json.source_view (j : Json) : Source.view j = j.view := rfl

@[simp] theorem Json.source_verbatim (j : Json) : Source.verbatim j = .ok j := rfl

end CollectionSearch
