import CollectionSearch.Text.Character
import CollectionSearch.Text.Split

/-!
# IPv6 addresses

An address is eight groups of 16 bits, written in hexadecimal between colons. Two colons stand
for as many groups of zeros as are missing, and the last two groups may be written as four
decimal bytes between dots.

* `Ipv6` : the addresses; `Ipv6.ofChars?` : an address from its text.
* `Ipv6.text` : the shortest text, with the first longest run of zeros left out.
-/

namespace CollectionSearch

/-- An IPv6 address. -/
structure Ipv6 where
  /-- The groups, the most significant first. -/
  groups : List UInt16
  /-- There are eight. -/
  length_groups : groups.length = 8

namespace Ipv6

/-! ## Reading -/

/-- One group, of no more than four digits. -/
def group? (cs : List Char) : Option UInt16 :=
  if cs.isEmpty || cs.length > 4 then none else (Text.ofDigits? 16 cs).map UInt16.ofNat

/-- The number of one decimal byte, without needless zeros. -/
def byte? (cs : List Char) : Option Nat :=
  if cs.isEmpty || (cs.head? = some '0' && cs.length > 1) then none
  else (Text.ofDigits? 10 cs).filter fun n => n < 256

/-- The two groups of four decimal bytes. -/
def quad? (cs : List Char) : Option (List UInt16) :=
  match (Text.splitChars '.' cs).mapM byte? with
  | some [a, b, c, d] => some [UInt16.ofNat (a * 256 + b), UInt16.ofNat (c * 256 + d)]
  | _ => none

/-- The groups of the pieces between colons; the last may be four bytes. -/
def tailGroups? : List (List Char) → Option (List UInt16)
  | [] => some []
  | [last] => ((group? last).map fun g => [g]).or (quad? last)
  | piece :: rest => do return (← group? piece) :: (← tailGroups? rest)

/-- What stands before and after the first two colons in a row. -/
def gap? : List Char → Option (List Char × List Char)
  | [] => none
  | ':' :: ':' :: cs => some ([], cs)
  | c :: cs => (gap? cs).map fun sides => (c :: sides.1, sides.2)

/-- The pieces between colons, none of an empty text. -/
def pieces (cs : List Char) : List (List Char) := if cs.isEmpty then [] else Text.splitChars ':' cs

/-- The groups with zeros in place of the missing ones, of which there is at least one. -/
def fill? (before after : List UInt16) : Option (List UInt16) :=
  if before.length + after.length < 8 then
    some (before ++ List.replicate (8 - before.length - after.length) 0 ++ after)
  else none

/-- The groups of a text. -/
def groups? (cs : List Char) : Option (List UInt16) :=
  match gap? cs with
  | some (before, after) => do
    fill? (← (pieces before).mapM group?) (← tailGroups? (pieces after))
  | none => tailGroups? (pieces cs)

/-- The address that a text stands for. -/
def ofChars? (cs : List Char) : Option Ipv6 := do
  let l ← groups? cs
  if h : l.length = 8 then some ⟨l, h⟩ else none

/-! ## Writing -/

/-- How many zeros stand in front. -/
def zeroRun (l : List UInt16) : Nat := (l.takeWhile fun g => g = 0).length

/-- The place and the length of the first longest run of zeros. -/
def longestRun (l : List UInt16) : Nat × Nat :=
  (List.range l.length).foldl (fun best start =>
    let run := zeroRun (l.drop start)
    if best.2 < run then (start, run) else best) (0, 0)

/-- Groups in hexadecimal between colons. -/
def joinGroups (l : List UInt16) : String :=
  ":".intercalate (l.map fun g => String.ofList (Text.hexDigits g.toNat))

/-- The text of an address. A lone group of zeros is written. -/
def text (a : Ipv6) : String :=
  let (start, run) := longestRun a.groups
  if run < 2 then joinGroups a.groups
  else joinGroups (a.groups.take start) ++ "::" ++ joinGroups (a.groups.drop (start + run))

end Ipv6

end CollectionSearch
