/-!
# Punycode

Labels of domain names spell characters beyond ASCII in letters, digits and hyphens. The ASCII
characters come first, before the last hyphen; what follows is a list of numbers in a mixed base
that say which further character is inserted where.

* `Punycode.decode?` : the characters that a label spells.
-/

namespace CollectionSearch.Punycode

/-- The value of a digit, lower-case letters before decimal digits. -/
def digit? (c : Char) : Option Nat :=
  if 'a' ≤ c ∧ c ≤ 'z' then some (c.toNat - 'a'.toNat)
  else if '0' ≤ c ∧ c ≤ '9' then some (c.toNat - '0'.toNat + 26)
  else none

/-- The digits below this end a number. It depends on the place and on the sizes met so far. -/
def threshold (place bias : Nat) : Nat := min 26 (max 1 (place - bias))

/-- Divides by 35 until the number is small, and counts. -/
def damp (delta : Nat) : Nat × Nat :=
  if 455 < delta then
    let (rest, times) := damp (delta / 35)
    (rest, times + 1)
  else (delta, 0)
termination_by delta
decreasing_by exact Nat.div_lt_self (by omega) (by omega)

/-- The bias after a number, given how many characters there are now. -/
def adapt (delta size : Nat) (first : Bool) : Nat :=
  let halved := if first then delta / 700 else delta / 2
  let (rest, times) := damp (halved + halved / size)
  36 * times + 36 * rest / (rest + 38)

/-- The characters so far and the number that is being read. -/
structure State where
  /-- The characters so far. -/
  spelled : List Char
  /-- The last code point inserted. -/
  codePoint : Nat := 128
  /-- The place after the last insertion. -/
  index : Nat := 0
  /-- The bias for the number. -/
  bias : Nat := 72
  /-- The place of the next digit. -/
  place : Nat := 36
  /-- The weight of the next digit. -/
  weight : Nat := 1
  /-- The number so far. -/
  delta : Nat := 0

/-- Inserts the character that a finished number stands for. -/
def State.insert (s : State) (delta : Nat) : Option State :=
  let size := s.spelled.length + 1
  let codePoint := s.codePoint + (s.index + delta) / size
  let index := (s.index + delta) % size
  if codePoint.isValidChar then
    some {
      spelled := s.spelled.take index ++ Char.ofNat codePoint :: s.spelled.drop index
      codePoint := codePoint
      index := index + 1
      bias := adapt delta size (s.index = 0) }
  else none

/-- Reads one more digit. -/
def State.read (s : State) (c : Char) : Option State := do
  let d ← digit? c
  let delta := s.delta + d * s.weight
  let t := threshold s.place s.bias
  if d < t then s.insert delta
  else some { s with place := s.place + 36, weight := s.weight * (36 - t), delta := delta }

/-- The ASCII characters of a label, and the digits. -/
def parts (cs : List Char) : List Char × List Char :=
  let digits := (cs.reverse.takeWhile fun c => c ≠ '-').reverse
  let ascii := cs.take (cs.length - digits.length - 1)
  if ascii.isEmpty then ([], cs) else (ascii, digits)

/-- The characters that a label spells. A number must not break off. -/
def decode? (cs : List Char) : Option (List Char) := do
  let (ascii, digits) := parts cs
  let s ← digits.foldlM State.read { spelled := ascii }
  if s.place = 36 then some s.spelled else none

end CollectionSearch.Punycode
