/-!
# Characters

Properties of characters as ranges of code points, and the two that texts are read by: blank
characters, which are trimmed away, and the digits of numbers written in a base up to sixteen. The
blank ones are those with the White_Space property of the Unicode standard, twenty-five in all.
Zero-width characters are not among them.

* `inRanges`, `valueAt?` : whether a character has a property, and its value in a table of values.
* `isSpace`, `trim`, `isBlankText` : blank characters, a text without them at its ends, and whether
  nothing is left of it.
* `hexValue?`, `digitValue?`, `ofDigits?` : the value of a digit, and the number that digits stand
  for.
* `hexDigits` : the lower-case hexadecimal digits of a number.
-/

namespace CollectionSearch.Text

/-! ## Tables -/

/-- Whether a character lies in one of the ranges. -/
def inRanges (ranges : List (Nat × Nat)) (c : Char) : Bool :=
  ranges.any fun r => r.1 ≤ c.toNat && c.toNat ≤ r.2

/-- The value of the first range in which a character lies. -/
def valueAt? {α : Type} (table : List (Nat × Nat × α)) (c : Char) : Option α :=
  (table.find? fun r => r.1 ≤ c.toNat && c.toNat ≤ r.2.1).map fun r => r.2.2

/-! ## Blank characters -/

/-- The ranges of the White_Space property. -/
def spaceRanges : List (Nat × Nat) :=
  [(0x09, 0x0D), (0x20, 0x20), (0x85, 0x85), (0xA0, 0xA0), (0x1680, 0x1680), (0x2000, 0x200A),
    (0x2028, 0x2029), (0x202F, 0x202F), (0x205F, 0x205F), (0x3000, 0x3000)]

/-- Whether a character has the White_Space property. -/
def isSpace (c : Char) : Bool := inRanges spaceRanges c

/-- The characters without blank ones at both ends. -/
def trimChars (cs : List Char) : List Char :=
  ((cs.dropWhile isSpace).reverse.dropWhile isSpace).reverse

/-- The text without blank characters at both ends. -/
def trim (s : String) : String := String.ofList (trimChars s.toList)

/-- Whether the text has only blank characters. -/
def isBlankText (s : String) : Bool := (trim s).isEmpty

/-- A text is blank exactly when all its characters are. -/
theorem isBlankText_iff (s : String) :
    isBlankText s = true ↔ ∀ c ∈ s.toList, isSpace c = true := by
  have hnil : ∀ cs : List Char, cs.dropWhile isSpace = [] ↔ ∀ c ∈ cs, isSpace c = true := by
    intro cs
    induction cs with
    | nil => simp
    | cons c cs ih => by_cases hc : isSpace c = true <;> simp [hc, ih]
  rw [isBlankText, trim, String.isEmpty_iff, String.ofList_eq_empty_iff, trimChars,
    List.reverse_eq_nil_iff, hnil]
  simp only [List.mem_reverse]
  constructor
  · -- what is dropped in front is blank in any case
    intro hrest c hc
    rw [← List.takeWhile_append_dropWhile (p := isSpace) (l := s.toList)] at hc
    rcases List.mem_append.mp hc with hc | hc
    · exact List.all_eq_true.mp List.all_takeWhile c hc
    · exact hrest c hc
  · exact fun h c hc => h c ((List.dropWhile_suffix _).subset hc)

/-! ## Digits -/

/-- The value of a hexadecimal digit. -/
def hexValue? (c : Char) : Option Nat :=
  if '0' ≤ c ∧ c ≤ '9' then some (c.toNat - '0'.toNat)
  else if 'a' ≤ c ∧ c ≤ 'f' then some (c.toNat - 'a'.toNat + 10)
  else if 'A' ≤ c ∧ c ≤ 'F' then some (c.toNat - 'A'.toNat + 10)
  else none

/-- The value of a digit of a base up to sixteen. -/
def digitValue? (base : Nat) (c : Char) : Option Nat := (hexValue? c).filter fun d => d < base

/-- The number that digits stand for; no digits stand for zero. -/
def ofDigits? (base : Nat) (cs : List Char) : Option Nat :=
  cs.foldlM (fun n c => (digitValue? base c).map fun d => base * n + d) 0

/-- The lower-case hexadecimal digits of a number. -/
def hexDigits (n : Nat) : List Char := Nat.toDigits 16 n

@[simp] theorem ofDigits?_nil (base : Nat) : ofDigits? base [] = some 0 := rfl

end CollectionSearch.Text
