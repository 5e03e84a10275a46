import Mathlib.Algebra.Ring.Int.Defs
import Mathlib.Data.Int.Order.Basic
import Mathlib.Data.List.Infix

/-!
# Balanced parentheses

A text is balanced when it closes the parentheses that it opens, each after it was opened, and no
others. Texts that are balanced one by one are balanced when they are put together, and no empty
pair of parentheses comes about where they meet.

* `depth` : how many parentheses a text opens and does not close.
* `Balanced` : no part up to some place has a negative depth, and the whole text has depth zero.
* `Hollow` : a text has an empty pair of parentheses in it.
* `pair_append_cases` : where two neighbours stand in a text that is put together.

**Main statements:** `Balanced.append` and `Balanced.wrap` for the ways to put texts together, and
`Balanced.hollow_append` and `Balanced.hollow_wrap` for empty pairs in them.
-/

namespace CollectionSearch.Expression

/-! ## Depth -/

/-- What a character adds to the depth. -/
def weight (c : Char) : Int := if c = '(' then 1 else if c = ')' then -1 else 0

/-- The number of parentheses that a text opens and does not close. -/
def depth (cs : List Char) : Int := (cs.map weight).sum

@[simp] theorem depth_nil : depth [] = 0 := rfl

@[simp] theorem depth_cons (c : Char) (cs : List Char) : depth (c :: cs) = weight c + depth cs := by
  simp [depth]

@[simp] theorem depth_append (x y : List Char) : depth (x ++ y) = depth x + depth y := by
  simp [depth]

@[simp] theorem weight_opening : weight '(' = 1 := rfl

@[simp] theorem weight_closing : weight ')' = -1 := rfl

/-- Only parentheses change the depth. -/
theorem weight_eq_zero {c : Char} (hopening : c ≠ '(') (hclosing : c ≠ ')') : weight c = 0 := by
  simp [weight, hopening, hclosing]

/-- A text without parentheses has no depth. -/
theorem depth_eq_zero {cs : List Char} (h : ∀ c ∈ cs, c ≠ '(' ∧ c ≠ ')') : depth cs = 0 := by
  induction cs with
  | nil => rfl
  | cons c cs ih =>
      obtain ⟨hopening, hclosing⟩ := h c List.mem_cons_self
      have hrest := ih fun d hd => h d (List.mem_cons_of_mem c hd)
      rw [depth_cons, hrest, weight_eq_zero hopening hclosing]
      rfl

/-! ## Places in a text that is put together -/

/-- A part up to some place ends in the first text or in the second. -/
theorem prefix_append_cases {x y p : List Char} (h : p <+: x ++ y) :
    p <+: x ∨ ∃ q, q <+: y ∧ p = x ++ q := by
  rcases List.prefix_or_prefix_of_prefix h (List.prefix_append x y) with hx | ⟨q, rfl⟩
  · exact .inl hx
  · exact .inr ⟨q, (List.prefix_append_right_inj x).mp h, rfl⟩

/-- Two neighbours stand in the first text, in the second, or where the two meet. -/
theorem pair_append_cases {a b : Char} {before after x y : List Char}
    (h : before ++ a :: b :: after = x ++ y) :
    (∃ t, x = before ++ a :: b :: t ∧ after = t ++ y) ∨ (x = before ++ [a] ∧ y = b :: after) ∨
      ∃ t, before = x ++ t ∧ y = t ++ a :: b :: after := by
  rcases List.append_eq_append_iff.mp h with ⟨t, rfl, ht⟩ | ⟨t, rfl, ht⟩
  · rcases t with _ | ⟨c, _ | ⟨d, t⟩⟩
    · exact .inr (.inr ⟨[], by simp, by simpa using ht.symm⟩)
    · obtain ⟨rfl, rfl⟩ : a = c ∧ b :: after = y := by simpa using ht
      exact .inr (.inl ⟨rfl, rfl⟩)
    · obtain ⟨rfl, rfl, rfl⟩ : a = c ∧ b = d ∧ after = t ++ y := by simpa using ht
      exact .inl ⟨t, rfl, rfl⟩
  · exact .inr (.inr ⟨t, rfl, ht⟩)

/-! ## Balanced texts -/

/-- Whether a text closes the parentheses that it opens, and no others. -/
structure Balanced (cs : List Char) : Prop where
  /-- Nothing is closed that was not opened before. -/
  nonneg : ∀ p, p <+: cs → 0 ≤ depth p
  /-- Nothing is left open at the end. -/
  settled : depth cs = 0

instance (cs : List Char) : Decidable (Balanced cs) :=
  decidable_of_iff ((∀ p ∈ cs.inits, 0 ≤ depth p) ∧ depth cs = 0)
    ⟨fun h => ⟨fun p hp => h.1 p ((List.mem_inits p cs).mpr hp), h.2⟩,
      fun h => ⟨fun p hp => h.nonneg p ((List.mem_inits p cs).mp hp), h.settled⟩⟩

/-- A text without parentheses is balanced. -/
theorem balanced_of_not_mem {cs : List Char} (hopen : '(' ∉ cs) (hclose : ')' ∉ cs) :
    Balanced cs := by
  have hdepth : ∀ p, p <+: cs → depth p = 0 := by
    intro p hp
    refine depth_eq_zero fun c hc => ⟨?_, ?_⟩
    · rintro rfl
      exact hopen (hp.subset hc)
    · rintro rfl
      exact hclose (hp.subset hc)
  exact ⟨fun p hp => (hdepth p hp).ge, hdepth cs List.prefix_rfl⟩

namespace Balanced

variable {x y : List Char}

/-- Balanced texts can be put one after the other. -/
theorem append (hx : Balanced x) (hy : Balanced y) : Balanced (x ++ y) where
  nonneg := by
    intro p hp
    rcases prefix_append_cases hp with hp | ⟨q, hq, rfl⟩
    · exact hx.nonneg p hp
    · rw [depth_append, hx.settled, Int.zero_add]
      exact hy.nonneg q hq
  settled := by rw [depth_append, hx.settled, hy.settled, Int.zero_add]

/-- A balanced text can be put in parentheses. -/
theorem wrap (hx : Balanced x) : Balanced ('(' :: (x ++ [')'])) where
  nonneg := by
    intro p hp
    rcases List.prefix_cons_iff.mp hp with rfl | ⟨t, rfl, ht⟩
    · exact le_rfl
    · have ht : -1 ≤ depth t := by
        rcases prefix_append_cases ht with ht | ⟨q, hq, rfl⟩
        · have := hx.nonneg t ht
          omega
        · rw [depth_append, hx.settled]
          rcases List.prefix_cons_iff.mp hq with rfl | ⟨r, rfl, hr⟩
          · simp
          · rw [List.prefix_nil.mp hr]
            simp
      rw [depth_cons, weight_opening]
      omega
  settled := by simp [hx.settled]

/-- A balanced text does not begin with a closing parenthesis. -/
theorem head_ne_closing {cs : List Char} (h : Balanced (')' :: cs)) : False := by
  have hneg : (0 : Int) ≤ depth [')'] := h.nonneg [')'] ⟨cs, rfl⟩
  simp at hneg

/-- A balanced text does not end with an opening parenthesis. -/
theorem last_ne_opening (h : Balanced (x ++ ['('])) : False := by
  have hnonneg : 0 ≤ depth x := h.nonneg x (List.prefix_append x _)
  have hsettled := h.settled
  simp at hsettled
  omega

end Balanced

/-! ## Empty pairs -/

/-- Whether a text has an empty pair of parentheses in it. -/
def Hollow (cs : List Char) : Prop := ['(', ')'] <:+: cs

instance (cs : List Char) : Decidable (Hollow cs) := by unfold Hollow; infer_instance

/-- An empty pair is two neighbours. -/
theorem hollow_iff {cs : List Char} :
    Hollow cs ↔ ∃ before after, before ++ '(' :: ')' :: after = cs := by
  unfold Hollow List.IsInfix
  simp

/-- A text without closing parentheses has no empty pair. -/
theorem not_hollow_of_not_mem {cs : List Char} (h : ')' ∉ cs) : ¬ Hollow cs := by
  intro hollow
  have hmem : ')' ∈ ['(', ')'] := by simp
  exact h (hollow.subset hmem)

namespace Balanced

variable {x y : List Char}

/-- No empty pair comes about behind a balanced text. -/
theorem hollow_append (hx : Balanced x) (h : Hollow (x ++ y)) : Hollow x ∨ Hollow y := by
  obtain ⟨before, after, hpair⟩ := hollow_iff.mp h
  rcases pair_append_cases hpair with ⟨t, rfl, -⟩ | ⟨rfl, -⟩ | ⟨t, -, rfl⟩
  · exact .inl (hollow_iff.mpr ⟨before, t, rfl⟩)
  · exact absurd hx last_ne_opening
  · exact .inr (hollow_iff.mpr ⟨t, after, rfl⟩)

/-- No empty pair comes about by parentheses around a balanced text that is not empty. -/
theorem hollow_wrap (hx : Balanced x) (hne : x ≠ []) (h : Hollow ('(' :: (x ++ [')']))) :
    Hollow x := by
  obtain ⟨before, after, hpair⟩ := hollow_iff.mp h
  rcases before with _ | ⟨c, before⟩
  · -- the pair would be the outer opening parenthesis and the first character of the text
    obtain ⟨c, cs, rfl⟩ := List.exists_cons_of_ne_nil hne
    obtain ⟨rfl, -⟩ : ')' = c ∧ _ := by simpa using hpair
    exact absurd hx head_ne_closing
  · have hinner : before ++ '(' :: ')' :: after = x ++ [')'] := by
      simpa using (List.cons.inj hpair).2
    rcases hx.hollow_append (hollow_iff.mpr ⟨before, after, hinner⟩) with h | h
    · exact h
    · exact absurd h (by decide)

end Balanced

end CollectionSearch.Expression
