import CollectionSearch.Filter.Expression

/-!
# The characters of plain numbers

The plain text of a number, of whatever kind, is made of digits, letters, the point and the minus
sign, and it is not empty. So is the text of a truth value. Nothing in it can be taken for a part
of the expression it stands in.

* `isNumeral` : the characters; `Numeric` : the texts made of them.

**Main statements:** `numeric_plainText` for binary numbers, `numeric_toString` for whole ones, and
`numeric_render` for every filter value that is no text.
-/

namespace CollectionSearch

/-! ## Numeric texts -/

/-- Whether a character may stand in the text of a number. -/
def isNumeral (c : Char) : Bool := c.isAlphanum || c = '.' || c = '-'

/-- Whether a text is made of the characters of numbers, of one at least. -/
def Numeric (s : String) : Prop := s ≠ "" ∧ ∀ c ∈ s.toList, isNumeral c = true

instance (s : String) : Decidable (Numeric s) :=
  @instDecidableAnd _ _ inferInstance (List.decidableBAll _ s.toList)

/-- A digit may stand in the text of a number. -/
theorem isNumeral_of_isDigit {c : Char} (h : c.isDigit = true) : isNumeral c = true := by
  simp [isNumeral, Char.isAlphanum, h]

/-- Decimal digits may stand in the text of a number. -/
theorem isNumeral_of_mem_toDigits {n : Nat} {c : Char} (h : c ∈ Nat.toDigits 10 n) :
    isNumeral c = true :=
  isNumeral_of_isDigit (Nat.isDigit_of_mem_toDigits (by decide) (by decide) h)

/-- Texts of the characters of numbers can be put together. -/
theorem Numeric.append {s t : String} (hs : ∀ c ∈ s.toList, isNumeral c = true) (ht : Numeric t) :
    Numeric (s ++ t) := by
  refine ⟨?_, ?_⟩
  · intro h
    exact ht.1 (String.append_eq_empty_iff.mp h).2
  · intro c hc
    rw [String.toList_append, List.mem_append] at hc
    exact hc.elim (hs c) (ht.2 c)

/-- Characters that no number has are not in its text. -/
theorem Numeric.not_mem {s : String} (h : Numeric s) {l : List Char}
    (hl : (l.all fun d => !isNumeral d) = true) : ∀ c ∈ s.toList, c ∉ l := by
  intro c hc hmem
  have hnot : (!isNumeral c) = true := List.all_eq_true.mp hl c hmem
  rw [h.2 c hc] at hnot
  exact Bool.false_ne_true hnot

/-! ## Whole numbers -/

/-- The text of a natural number is numeric. -/
theorem numeric_repr (n : Nat) : Numeric n.repr := by
  refine ⟨?_, ?_⟩
  · intro h
    have hdigits : Nat.toDigits 10 n = [] := by rw [← Nat.toList_repr, h]; rfl
    exact Nat.toDigits_ne_nil hdigits
  · intro c hc
    rw [Nat.toList_repr] at hc
    exact isNumeral_of_mem_toDigits hc

/-- The text of a whole number is numeric. -/
theorem numeric_toString (n : Int) : Numeric (toString n) := by
  rw [Int.toString_eq_repr, Int.repr_eq_if]
  split
  · exact numeric_repr _
  · exact Numeric.append (List.all_eq_true.mp (by decide)) (numeric_repr _)

/-! ## Binary numbers -/

/-- Digits with a point among them are numeric. -/
theorem numeric_placePoint {digits : List Char} (hne : digits ≠ [])
    (h : ∀ c ∈ digits, isNumeral c = true) (whole : Int) :
    Numeric (placePoint false digits whole) := by
  have hzeros : ∀ n, ∀ c ∈ List.replicate n '0', isNumeral c = true := by
    intro n c hc
    rw [List.eq_of_mem_replicate hc]
    decide
  unfold placePoint
  split
  · refine Numeric.append (List.all_eq_true.mp (by decide)) ⟨?_, ?_⟩
    · intro hnil
      exact hne (List.append_eq_nil_iff.mp (String.ofList_eq_empty_iff.mp hnil)).2
    · intro c hc
      rw [String.toList_ofList, List.mem_append] at hc
      exact hc.elim (hzeros _ c) (h c)
  · split
    · rw [if_neg Bool.false_ne_true, String.append_empty]
      refine ⟨?_, ?_⟩
      · intro hnil
        exact hne (List.append_eq_nil_iff.mp (String.ofList_eq_empty_iff.mp hnil)).1
      · intro c hc
        rw [String.toList_ofList, List.mem_append] at hc
        exact hc.elim (h c) (hzeros _ c)
    · rename_i hlong
      refine Numeric.append ?_ ⟨?_, ?_⟩
      · intro c hc
        rw [String.toList_append, String.toList_ofList, List.mem_append] at hc
        rcases hc with hc | hc
        · exact h c (List.mem_of_mem_take hc)
        · rw [List.mem_singleton.mp hc]
          decide
      · intro hnil
        have hdrop := List.drop_eq_nil_iff.mp (String.ofList_eq_empty_iff.mp hnil)
        exact hlong hdrop
      · intro c hc
        rw [String.toList_ofList] at hc
        exact h c (List.mem_of_mem_drop hc)

/-- The plain text of a binary number is numeric, also of one that is not finite. -/
theorem numeric_plainText {format : BinaryFormat} : (x : Binary format) → Numeric x.plainText
  | .finite x => by
      have hsign : ∀ c ∈ (if x.negative then "-" else "").toList, isNumeral c = true := by
        cases x.negative <;> exact List.all_eq_true.mp (by decide)
      rw [Binary.plainText, DecimalLayout.render]
      refine Numeric.append hsign ?_
      split
      · exact (by decide : Numeric "0")
      · exact numeric_placePoint Nat.toDigits_ne_nil (fun c hc => isNumeral_of_mem_toDigits hc) _
  | .infinite negative => by
      cases negative with
      | false => exact (by decide : Numeric "inf")
      | true => exact (by decide : Numeric "-inf")
  | .notANumber => (by decide : Numeric "NaN")

/-! ## Filter values -/

/-- The text of a filter value that is no text itself is numeric. -/
theorem numeric_render : (v : FilterScalar) → (∀ s, v ≠ .text s) → Numeric v.render
  | .text s, h => absurd rfl (h s)
  | .int n, _ => numeric_toString n.toInt
  | .float x, _ => numeric_plainText x
  | .bool true, _ => (by decide : Numeric "true")
  | .bool false, _ => (by decide : Numeric "false")

end CollectionSearch
