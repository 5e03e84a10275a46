import CollectionSearch.Text.Character
import CollectionSearch.Text.Split

/-!
# IPv4 addresses

An address is a number of 32 bits, written as up to four numbers between dots. The last of them
fills all the bytes that the others leave, so `127.1` is `127.0.0.1`. Each may be decimal,
hexadecimal after `0x`, or octal after `0`. One dot may stand at the end.

* `Ipv4` : the addresses; `Ipv4.text` : four decimal numbers.
* `Ipv4.ofChars?` : an address from its text.
* `Ipv4.endsInNumber` : whether a name of a domain has to be an address.
-/

namespace CollectionSearch

/-- An IPv4 address. -/
structure Ipv4 where
  /-- The address as a number. -/
  value : UInt32
  deriving DecidableEq

namespace Ipv4

/-- The number of one part. -/
def part? : List Char → Option Nat
  | [] => none
  | ['0'] => some 0
  | '0' :: 'x' :: cs => Text.ofDigits? 16 cs
  | '0' :: 'X' :: cs => Text.ofDigits? 16 cs
  | '0' :: cs => Text.ofDigits? 8 cs
  | cs => Text.ofDigits? 10 cs

/-- The parts between dots, without an empty one at the end. -/
def parts (cs : List Char) : List (List Char) :=
  let all := Text.splitChars '.' cs
  if all.getLast? = some [] then all.dropLast else all

/-- Whether the last part is a number, written well or not. -/
def endsInNumber (cs : List Char) : Bool :=
  match (parts cs).getLast? with
  | some last => (!last.isEmpty && last.all Char.isDigit) || (part? last).isSome
  | none => false

/-- The number made of the numbers of the parts, the most significant first. -/
def assemble : List Nat → Nat → Option Nat
  | [], _ => none
  | [last], room => if last < Nat.pow 256 room then some last else none
  | n :: rest, room =>
    if n < 256 then
      (assemble rest (room - 1)).map fun low => n * Nat.pow 256 (room - 1) + low
    else none

/-- The address that a text stands for. -/
def ofChars? (cs : List Char) : Option Ipv4 := do
  let numbers ← (parts cs).mapM part?
  if numbers.length > 4 then none
  else
    let n ← assemble numbers 4
    return ⟨UInt32.ofNat n⟩

/-- The byte of an address at a place counted from the least significant. -/
def byte (a : Ipv4) (place : Nat) : Nat := a.value.toNat / Nat.pow 256 place % 256

/-- The text of an address. -/
def text (a : Ipv4) : String :=
  ".".intercalate ([3, 2, 1, 0].map fun place => toString (a.byte place))

end Ipv4

end CollectionSearch
