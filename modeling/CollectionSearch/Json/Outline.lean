import CollectionSearch.Json.Token

/-!
# Outlines of JSON text

What a reader that goes through a text from left to right can meet: values, and the places where
the text breaks off or a value cannot be read. An outline keeps repeated names, and it says of
every member of an object whether its value can be passed over unread, which asks for less than
reading it. So a decoder over outlines reports whichever comes first, a value that does not suit
it or a text that is not JSON.

* `Outline` : the outlines, and `Outline.ofText` : the outline of a text and what follows it.
* `Outline.read` : the value, or the first fault; repeated names settled or kept.
* `Json.parse` : the value of a whole text.
-/

namespace CollectionSearch

open Json (Fault Token)

/-! ## The type -/

/-- A JSON text as a reader from left to right meets it. -/
inductive Outline where
  /-- A word or a number. -/
  | scalar (j : Json)
  /-- A string. -/
  | text (s : String)
  /-- The items up to the closing bracket or the fault. -/
  | array (items : List Outline) (breach : Option Fault)
  /-- The members up to the closing brace or the fault: name, value, and what stops passing over
  the value. -/
  | object (members : List (String × Outline × Option Fault)) (breach : Option Fault)
  /-- A place where nothing can be read. -/
  | broken (fault : Fault)

/-! ## From tokens -/

namespace Outline

/-- The members of an open object. -/
structure OpenObject where
  /-- The members read so far, the last one first. -/
  members : List (String × Outline × Option Fault)
  /-- A name that cannot be read ends the readable part. -/
  breach : Option Fault
  /-- The name of the member whose value comes next. -/
  name : String

/-- An open array, with the items read so far, the last one first, or an open object. -/
inductive Frame where
  | array (items : List Outline)
  | object (o : OpenObject)

/-- What may stand at the next place. -/
inductive Await where
  /-- A value. -/
  | value
  /-- A value or the end of the array. -/
  | itemOrClose
  /-- A name. -/
  | name
  /-- A name or the end of the object. -/
  | nameOrClose
  /-- The colon after a name. -/
  | colon
  /-- A comma or the end of the container. -/
  | separator

/-- The outcome of one token. -/
inductive Step where
  /-- The text goes on. -/
  | next (await : Await) (stack : List Frame)
  /-- The value is complete. -/
  | done (outline : Outline)
  /-- The text cannot even be passed over. -/
  | stop (outline : Outline)

/-- The greatest depth of nested containers that a reader enters. -/
def maxDepth : Nat := 127

/-- A container as it is seen from outside: one at too great a depth cannot be read. -/
def atDepth (depth : Nat) (o : Outline) : Outline :=
  if depth > maxDepth then .broken .malformed else o

/-- Adds a member, unless the readable part has ended. -/
def OpenObject.add (o : OpenObject) (value : Outline) (passing : Option Fault) : OpenObject :=
  match o.breach with
  | some _ => o
  | none => { o with members := (o.name, value, passing) :: o.members }

/-- Closes every open container because of a fault: `reading` for a reader, `passing` for one
that passes over. The value at the fault, if one was begun, becomes the last of its container. -/
def abandon (reading passing : Fault) : Option Outline → List Frame → Outline
  | last, [] => last.getD (.broken reading)
  | last, .array items :: stack =>
    let closed := .array (last.toList ++ items).reverse (some reading)
    abandon reading passing (some (atDepth (stack.length + 1) closed)) stack
  | last, .object o :: stack =>
    let o := match last with
      | some value => o.add value (some passing)
      | none => o
    let closed := .object o.members.reverse (some (o.breach.getD reading))
    abandon reading passing (some (atDepth (stack.length + 1) closed)) stack

/-- Puts a complete value into the innermost open container. -/
def deliver (value : Outline) : List Frame → Step
  | [] => .done value
  | .array items :: stack => .next .separator (.array (value :: items) :: stack)
  | .object o :: stack => .next .separator (.object (o.add value none) :: stack)

/-- Closes the innermost open container. -/
def close (frame : Frame) (stack : List Frame) : Step :=
  let closed := match frame with
    | .array items => .array items.reverse none
    | .object o => .object o.members.reverse o.breach
  deliver (atDepth (stack.length + 1) closed) stack

/-- A token at a place where a value may stand. -/
def valueStep (stack : List Frame) : Token → Step
  | .openObject => .next .nameOrClose (.object ⟨[], none, ""⟩ :: stack)
  | .openArray => .next .itemOrClose (.array [] :: stack)
  | .scalar value passing =>
    let outline := match value with
      | .ok j => .scalar j
      | .error f => .broken f
    match passing with
    | none => deliver outline stack
    | some f => .stop (abandon (value.toOption.elim f fun _ => f) f (some outline) stack)
  | .text value passing =>
    let outline := match value with
      | .ok s => .text s
      | .error f => .broken f
    match passing with
    | none => deliver outline stack
    | some f => .stop (abandon f f (some outline) stack)
  | _ => .stop (abandon .malformed .malformed (some (.broken .malformed)) stack)

/-- A token at a place where a name must stand. -/
def nameStep (o : OpenObject) (stack : List Frame) : Token → Step
  | .text (.ok s) none => .next .colon (.object { o with name := s } :: stack)
  | .text (.error f) none =>
    .next .colon (.object { o with breach := some (o.breach.getD f) } :: stack)
  | .text value (some f) =>
    let reading := match value with
      | .ok _ => f
      | .error g => g
    .stop (abandon reading f none (.object o :: stack))
  | _ => .stop (abandon .malformed .malformed none (.object o :: stack))

/-- One token. -/
def step : Await → List Frame → Token → Step
  | .value, stack, t => valueStep stack t
  | .itemOrClose, .array items :: stack, .closeArray => close (.array items) stack
  | .itemOrClose, stack, t => valueStep stack t
  | .nameOrClose, .object o :: stack, .closeObject => close (.object o) stack
  | .nameOrClose, .object o :: stack, t => nameStep o stack t
  | .name, .object o :: stack, t => nameStep o stack t
  | .colon, stack, .colon => .next .value stack
  | .colon, stack, _ =>
    .stop (abandon .malformed .malformed (some (.broken .malformed)) stack)
  | .separator, .array items :: stack, .comma => .next .value (.array items :: stack)
  | .separator, .object o :: stack, .comma => .next .name (.object o :: stack)
  | .separator, .array items :: stack, .closeArray => close (.array items) stack
  | .separator, .object o :: stack, .closeObject => close (.object o) stack
  | _, stack, _ => .stop (abandon .malformed .malformed none stack)

/-- The end of the text at a place where something must still stand. -/
def endOfText (await : Await) (stack : List Frame) : Outline :=
  match await with
  | .value | .colon => abandon .ended .ended (some (.broken .ended)) stack
  | _ => abandon .ended .ended none stack

/-- Reads one value off the tokens: its outline, and the tokens after it if it could be passed
over. -/
def ofTokens : Await → List Frame → List Token → Outline × Option (List Token)
  | await, stack, [] => (endOfText await stack, none)
  | await, stack, t :: rest =>
    match step await stack t with
    | .next await' stack' => ofTokens await' stack' rest
    | .done outline => (outline, some rest)
    | .stop outline => (outline, none)

/-- The outline of a text, and the fault that follows a complete value when more text does. -/
def ofText (s : String) : Outline × Option Fault :=
  match ofTokens .value [] (Json.tokens s.toList) with
  | (outline, some (_ :: _)) => (outline, some .malformed)
  | (outline, _) => (outline, none)

/-! ## Values -/

mutual

/-- The value, or the first fault. When `settled`, the last of several members of one name counts,
at the place of the first. -/
def read (settled : Bool) : Outline → Except Fault Json
  | .scalar j => .ok j
  | .text s => .ok (.string s)
  | .array items breach => do
    let values ← readItems settled items
    match breach with
    | some f => .error f
    | none => .ok (.array values)
  | .object members breach => do
    let values ← readMembers settled members
    match breach with
    | some f => .error f
    | none =>
      if settled then .ok (.object (values.foldl (fun acc m => setEntry m.1 m.2 acc) []))
      else .ok (.object values)
  | .broken f => .error f

/-- The values of the items, or the first fault. -/
def readItems (settled : Bool) : List Outline → Except Fault (List Json)
  | [] => .ok []
  | o :: rest => do
    let value ← o.read settled
    return value :: (← readItems settled rest)

/-- The values of the members, or the first fault. -/
def readMembers (settled : Bool) :
    List (String × Outline × Option Fault) → Except Fault (List (String × Json))
  | [] => .ok []
  | (name, o, _) :: rest => do
    let value ← o.read settled
    return (name, value) :: (← readMembers settled rest)

end

end Outline

/-- The value of a whole text, repeated names settled. -/
def Json.parse (s : String) : Except Fault Json := do
  let (outline, trailing) := Outline.ofText s
  let value ← outline.read true
  match trailing with
  | some f => .error f
  | none => .ok value

end CollectionSearch
