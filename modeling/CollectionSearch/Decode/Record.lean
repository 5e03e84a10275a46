import CollectionSearch.Decode.Basic

/-!
# Records

A record is read part by part. In an object the members are judged in the order in which they
stand, unknown ones are passed over, and only then are missing parts reported, in the order of
the record. In an array the elements are the parts in that order, and parts with a default may be
missing at the end.

* `Part` : a name and what a value for it must suit.
* `Record` : the parts and how they make a value; an applicative functor.
* `Record.required`, `Record.defaulted`, `Record.optional` : single parts.
* `Record.decode` : reads an object or an array; `Record.decodeOpen` : reads an object and keeps
  the members that are no parts.
-/

namespace CollectionSearch

open Json (Fault)

/-! ## Parts and records -/

/-- A named part of a record. -/
structure Part (V : Type) where
  /-- The name. -/
  name : String
  /-- What is wrong with a value for this part, if anything. -/
  refuse : V → Option DecodeError

/-- A record: its parts in order, and how its value is made, given what stands for each part and
the error for a part that is missing. -/
structure Record (V : Type) (α : Type) where
  /-- The parts in order. -/
  parts : List (Part V)
  /-- Makes the value. -/
  build : (String → Except DecodeError (Option V)) → (String → DecodeError) → Except DecodeError α

namespace Record

variable {V : Type} {α β : Type}

instance : Applicative (Record V) where
  pure a := ⟨[], fun _ _ => .ok a⟩
  seq f x :=
    let x := x ()
    ⟨f.parts ++ x.parts, fun find absent => do
      let g ← f.build find absent
      let a ← x.build find absent
      return g a⟩

/-- A part that must be there. -/
def required (name : String) (decode : Decoder V α) : Record V α :=
  ⟨[⟨name, fun v => errorOf (decode v)⟩], fun find absent => do
    match ← find name with
    | some v => decode v
    | none => .error (absent name)⟩

/-- A part that has a value of its own when it is not there. -/
def defaulted (name : String) (fallback : α) (decode : Decoder V α) : Record V α :=
  ⟨[⟨name, fun v => errorOf (decode v)⟩], fun find _ => do
    match ← find name with
    | some v => decode v
    | none => .ok fallback⟩

/-- A part that may be missing or `null`. -/
def optional [Source V] (name : String) (decode : Decoder V α) : Record V (Option α) :=
  defaulted name none (decodeNullable decode)

/-! ## Reading -/

/-- The part of a name. -/
def part? (r : Record V α) (name : String) : Option (Part V) :=
  r.parts.find? fun p => p.name = name

/-- Judges the members of an object in order, given the names of the parts already met. A member
that is no part is left to `other`. -/
def judge (r : Record V α) (other : Member V → Option DecodeError) :
    List String → List (Member V) → Except DecodeError Unit
  | _, [] => .ok ()
  | seen, m :: rest =>
    match r.part? m.name with
    | none =>
      match other m with
      | some e => .error e
      | none => judge r other seen rest
    | some p =>
      if m.name ∈ seen then .error (.duplicateField m.name)
      else
        match p.refuse m.value with
        | some e => .error e
        | none => judge r other (m.name :: seen) rest

/-- What stands for a name among the members. -/
def findMember (members : List (Member V)) (name : String) : Option V :=
  (members.find? fun m => m.name = name).map Member.value

/-- What stands for a name when the items are the parts in order. -/
def findItem (r : Record V α) (items : List V) (name : String) : Option V :=
  (((r.parts.map Part.name).zip items).find? fun e => e.1 = name).map Prod.snd

/-- The error for a part that is missing among the items of an array: what is counted is the
items there would have to be in front of it. -/
def missingItem (r : Record V α) (type part : String) : DecodeError :=
  .invalidLength (r.parts.findIdx fun p => p.name = part) (.elements type r.parts.length)

/-- Nothing, or the error of a fault. -/
def orBreach (breach : Option Fault) : Except DecodeError Unit :=
  match breach with
  | some f => .error (.unreadable f)
  | none => .ok ()

/-- Reads a record of the given name. -/
def decode [Source V] (name : String) (r : Record V α) : Decoder V α := fun v =>
  match Source.view v with
  | .object members breach => do
    r.judge (fun m => m.passing.map .unreadable) [] members
    orBreach breach
    r.build (fun part => .ok (findMember members part)) .missingField
  | .array items breach => do
    let find (part : String) : Except DecodeError (Option V) :=
      match r.findItem items part with
      | some item => .ok (some item)
      | none => do
        orBreach breach
        return none
    let a ← r.build find (r.missingItem name)
    if items.length > r.parts.length then .error (Source.surplus V items.length)
    else
      orBreach breach
      return a
  | other => .error (other.mismatch (.record name))

/-- Reads a record of the given name from an object, together with the members that are no
parts. -/
def decodeOpen [Source V] (name : String) (r : Record V α) :
    Decoder V (α × OrderedMap String Json) := fun v =>
  match Source.view v with
  | .object members breach => do
    r.judge (fun m => errorOf (decodeJson m.value)) [] members
    orBreach breach
    let a ← r.build (fun part => .ok (findMember members part)) .missingField
    let others ← (members.filter fun m => (r.part? m.name).isNone).mapM fun m => do
      return (m.name, ← decodeJson m.value)
    return (a, .ofList others)
  | other => .error (other.mismatch (.record name))

end Record

end CollectionSearch
