import CollectionSearch.Text.Character
import Mathlib.Data.Nat.Digits.Lemmas

/-!
# Decimal digits

Digits are read from left to right, so that one more digit at the end makes ten times the number and
the value of the digit.

**Main statements:** `ofDigits?_toDigits` says that the digits of a number are read as that number,
and `isDigit_of_mem` that nothing but digits is.
-/

namespace CollectionSearch.Text

/-- One more digit is read after the others. -/
theorem ofDigits?_concat (base : Nat) (cs : List Char) (c : Char) :
    ofDigits? base (cs ++ [c]) =
      (ofDigits? base cs).bind fun n => (digitValue? base c).map fun d => base * n + d := by
  simp [ofDigits?, List.foldlM_append, Option.bind_eq_bind]

theorem digitValue?_digitChar {d : Nat} (h : d < 10) : digitValue? 10 d.digitChar = some d := by
  interval_cases d <;> rfl

/-- Only digits have a value below ten. -/
theorem isDigit_of_digitValue? {c : Char} {d : Nat} (h : digitValue? 10 c = some d) :
    c.isDigit = true := by
  obtain ⟨hvalue, hlt⟩ := Option.filter_eq_some_iff.mp h
  rw [decide_eq_true_eq] at hlt
  unfold hexValue? at hvalue
  split_ifs at hvalue with hdigit hlower hupper
  · rw [Char.isDigit, Bool.and_eq_true, decide_eq_true_eq, decide_eq_true_eq]
    exact hdigit
  -- letters have values from ten on
  · cases hvalue
    omega
  · cases hvalue
    omega

/-- **The digits of a number are read as that number.** -/
theorem ofDigits?_toDigits (n : Nat) : ofDigits? 10 (Nat.toDigits 10 n) = some n := by
  induction n using Nat.strong_induction_on with
  | _ n ih =>
    have hlast : n % 10 < 10 := Nat.mod_lt _ (by omega)
    by_cases h : n < 10
    · rw [Nat.toDigits_of_lt_base h, ← List.nil_append [n.digitChar], ofDigits?_concat,
        digitValue?_digitChar h]
      simp
    · have hsplit : Nat.toDigits 10 n = Nat.toDigits 10 (n / 10) ++ [(n % 10).digitChar] := by
        rw [← Nat.toDigits_of_lt_base hlast,
          Nat.toDigits_append_toDigits (by decide) (by omega) hlast, Nat.div_add_mod]
      rw [hsplit, ofDigits?_concat, ih (n / 10) (by omega), digitValue?_digitChar hlast]
      simp [Nat.div_add_mod]

/-- The text of a number is read as that number. -/
theorem ofDigits?_toString (n : Nat) : ofDigits? 10 (toString n).toList = some n := by
  rw [Nat.toString_eq_repr, Nat.toList_repr]
  exact ofDigits?_toDigits n

/-- **What is read as a number is made of digits.** -/
theorem isDigit_of_mem {cs : List Char} {n : Nat} (h : ofDigits? 10 cs = some n) :
    ∀ c ∈ cs, c.isDigit = true := by
  induction cs using List.reverseRecOn generalizing n with
  | nil => simp
  | append_singleton rest last ih =>
    rw [ofDigits?_concat] at h
    obtain ⟨front, hfront, hlast⟩ := Option.bind_eq_some_iff.mp h
    obtain ⟨d, hd, -⟩ := Option.map_eq_some_iff.mp hlast
    intro c hc
    rw [List.mem_append, List.mem_singleton] at hc
    rcases hc with hc | rfl
    · exact ih hfront c hc
    · exact isDigit_of_digitValue? hd

end CollectionSearch.Text
