import CollectionSearch.Proofs.Expression.Balance
import CollectionSearch.Proofs.Expression.Syntax

/-!
# Operands of connectives

A connective stands between two operands. An operand is a balanced text that has something in it
besides blanks and parentheses, and no connective outside of parentheses. Whether a text has
operands wherever it has a connective can be seen from its characters alone.

* `IsOperand`, `EndsInOperand`, `BeginsWithOperand` : operands, and the texts next to a connective.
* `Flanked` : whether every `&&` and every `||` of a text stands between two operands.
* `WellFormed` : what joining keeps: balanced, flanked, and with an operand at both ends.
* `Nested`, `IsCell` : the texts that can be part of an atom and the ones that can be one.

**Main statements:** `WellFormed.join` and `WellFormed.isOperand_wrap` say that joining and
parentheses keep texts well formed, and `Chain.wellFormed` that the text of an expression is well
formed when its atoms are cells. `Chain.exists_hollow` finds an empty pair of parentheses in an
atom.
-/

namespace CollectionSearch.Expression

/-! ## Operands -/

/-- The character that a connective is made of. -/
def Connective.mark : Connective → Char
  | and => '&'
  | or => '|'

theorem Connective.toList_symbol (k : Connective) :
    k.symbol.toList = [' ', k.mark, k.mark, ' '] := by
  cases k <;> rfl

theorem Connective.mark_ne (k : Connective) : k.mark ≠ ' ' ∧ k.mark ≠ '(' ∧ k.mark ≠ ')' := by
  cases k <;> decide

/-- Whether a text can stand beside a connective. -/
structure IsOperand (cs : List Char) : Prop where
  /-- It closes the parentheses that it opens. -/
  balanced : Balanced cs
  /-- Connectives stand in parentheses only. -/
  enclosed : ∀ (k : Connective) (p q : List Char), p ++ k.mark :: q = cs → 0 < depth p
  /-- There is something in it. -/
  filled : ∃ c ∈ cs, c ∉ [' ', '(', ')']

/-- Whether an operand stands at the end of a text. -/
def EndsInOperand (cs : List Char) : Prop := ∃ x, x <:+ cs ∧ IsOperand x

/-- Whether an operand stands at the beginning of a text. -/
def BeginsWithOperand (cs : List Char) : Prop := ∃ x, x <+: cs ∧ IsOperand x

/-- Whether every connective of a text, wherever it occurs, stands between two operands. -/
def Flanked (cs : List Char) : Prop :=
  ∀ (k : Connective) (before after : List Char), before ++ k.mark :: k.mark :: after = cs →
    EndsInOperand before ∧ BeginsWithOperand after

theorem EndsInOperand.append_left {cs : List Char} (h : EndsInOperand cs) (front : List Char) :
    EndsInOperand (front ++ cs) := by
  obtain ⟨x, hx, hoperand⟩ := h
  exact ⟨x, hx.trans (List.suffix_append front cs), hoperand⟩

theorem BeginsWithOperand.append_right {cs : List Char} (h : BeginsWithOperand cs)
    (back : List Char) : BeginsWithOperand (cs ++ back) := by
  obtain ⟨x, hx, hoperand⟩ := h
  exact ⟨x, hx.trans (List.prefix_append cs back), hoperand⟩

/-- A blank behind an operand belongs to it. -/
theorem IsOperand.append_blank {x : List Char} (hx : IsOperand x) : IsOperand (x ++ [' ']) where
  balanced := hx.balanced.append (balanced_of_not_mem (by decide) (by decide))
  enclosed := by
    intro k p q hpq
    rcases List.append_eq_append_iff.mp hpq with ⟨t, rfl, ht⟩ | ⟨t, rfl, ht⟩
    · rcases t with _ | ⟨c, t⟩
      · exact absurd (List.cons.inj ht).1 k.mark_ne.1
      · obtain ⟨rfl, -⟩ := List.cons.inj ht
        exact hx.enclosed k p t rfl
    · have hmark : k.mark ∈ [' '] := by
        rw [ht]
        simp
      exact absurd (List.mem_singleton.mp hmark) k.mark_ne.1
  filled := by
    obtain ⟨c, hc, hfilled⟩ := hx.filled
    exact ⟨c, List.mem_append_left _ hc, hfilled⟩

/-- A blank in front of an operand belongs to it. -/
theorem IsOperand.cons_blank {x : List Char} (hx : IsOperand x) : IsOperand (' ' :: x) where
  balanced := Balanced.append (x := [' ']) (balanced_of_not_mem (by decide) (by decide)) hx.balanced
  enclosed := by
    intro k p q hpq
    rcases p with _ | ⟨c, p⟩
    · exact absurd (List.cons.inj hpq).1 k.mark_ne.1
    · obtain ⟨rfl, htail⟩ := List.cons.inj hpq
      have hdepth := hx.enclosed k p q htail
      rw [depth_cons]
      exact lt_of_lt_of_eq hdepth (Int.zero_add _).symm
  filled := by
    obtain ⟨c, hc, hfilled⟩ := hx.filled
    exact ⟨c, List.mem_cons_of_mem _ hc, hfilled⟩

/-! ## Well-formed texts -/

/-- Whether a text is balanced and flanked, with an operand at both ends. -/
structure WellFormed (cs : List Char) : Prop where
  /-- It closes the parentheses that it opens. -/
  balanced : Balanced cs
  /-- Its connectives stand between operands. -/
  flanked : Flanked cs
  /-- An operand stands at the beginning. -/
  begins : BeginsWithOperand cs
  /-- An operand stands at the end. -/
  ends : EndsInOperand cs

/-- An operand whose connectives stand between operands is well formed. -/
theorem IsOperand.wellFormed {x : List Char} (hx : IsOperand x) (h : Flanked x) : WellFormed x :=
  ⟨hx.balanced, h, ⟨x, List.prefix_rfl, hx⟩, ⟨x, List.suffix_rfl, hx⟩⟩

namespace WellFormed

variable {x y : List Char}

/-- Joined texts are flanked: a connective of theirs is one of the first text, the one between the
texts, or one of the second text. -/
theorem flanked_join (k : Connective) (hx : WellFormed x) (hy : WellFormed y) :
    Flanked (x ++ (k.symbol.toList ++ y)) := by
  intro j before after h
  rw [k.toList_symbol] at h
  rcases pair_append_cases h with ⟨t, rfl, rfl⟩ | ⟨-, hmeet⟩ | ⟨t, rfl, ht⟩
  · obtain ⟨hbefore, hafter⟩ := hx.flanked j before t rfl
    exact ⟨hbefore, hafter.append_right _⟩
  · exact absurd (List.cons.inj hmeet).1.symm j.mark_ne.1
  · rcases pair_append_cases ht.symm with ⟨u, hu, rfl⟩ | ⟨hmeet, -⟩ | ⟨u, rfl, rfl⟩
    · -- of the symbol only the two characters in its middle are the connective
      obtain ⟨rfl, rfl⟩ : t = [' '] ∧ u = [' '] := by
        have hblank := j.mark_ne.1
        rcases t with _ | ⟨c, _ | ⟨d, _ | ⟨e, _ | ⟨g, t⟩⟩⟩⟩ <;> simp_all
      obtain ⟨z, hz, hoperand⟩ := hx.ends
      obtain ⟨w, hw, hoperand'⟩ := hy.begins
      refine ⟨⟨z ++ [' '], ?_, hoperand.append_blank⟩, ⟨' ' :: w, ?_, hoperand'.cons_blank⟩⟩
      · exact (List.suffix_append_self_iff).mpr hz
      · exact (List.prefix_cons_inj ' ').mpr hw
    · have hlast : j.mark = ' ' := by
        have := congrArg List.getLast? hmeet
        simpa using this.symm
      exact absurd hlast j.mark_ne.1
    · obtain ⟨hbefore, hafter⟩ := hy.flanked j u after rfl
      exact ⟨(hbefore.append_left _).append_left x, hafter⟩

/-- Joined texts are well formed. -/
theorem join (k : Connective) (hx : WellFormed x) (hy : WellFormed y) :
    WellFormed (x ++ (k.symbol.toList ++ y)) where
  balanced := by
    have hsymbol : Balanced k.symbol.toList := by
      cases k <;> exact balanced_of_not_mem (by decide) (by decide)
    exact hx.balanced.append (hsymbol.append hy.balanced)
  flanked := flanked_join k hx hy
  begins := hx.begins.append_right _
  ends := (hy.ends.append_left _).append_left x

/-- A text in parentheses is flanked when it is well formed. -/
theorem flanked_wrap (hx : WellFormed x) : Flanked ('(' :: (x ++ [')'])) := by
  intro k before after h
  rcases before with _ | ⟨c, before⟩
  · exact absurd (List.cons.inj h).1 k.mark_ne.2.1
  obtain ⟨rfl, hinner⟩ := List.cons.inj h
  rcases pair_append_cases hinner with ⟨t, rfl, rfl⟩ | ⟨-, hmeet⟩ | ⟨t, rfl, ht⟩
  · obtain ⟨hbefore, hafter⟩ := hx.flanked k before t rfl
    exact ⟨hbefore.append_left ['('], hafter.append_right _⟩
  · exact absurd (List.cons.inj hmeet).1.symm k.mark_ne.2.2
  · have hlength := congrArg List.length ht
    simp at hlength
    omega

/-- A text in parentheses is an operand when it is well formed. -/
theorem isOperand_wrap (hx : WellFormed x) : IsOperand ('(' :: (x ++ [')'])) where
  balanced := hx.balanced.wrap
  enclosed := by
    intro k p q h
    rcases p with _ | ⟨c, p⟩
    · exact absurd (List.cons.inj h).1 k.mark_ne.2.1
    obtain ⟨rfl, hinner⟩ := List.cons.inj h
    -- the place is inside the outer parentheses, where the depth is greater by one
    have hdepth : 0 ≤ depth p := by
      have hprefix : p <+: x ++ [')'] := ⟨k.mark :: q, hinner⟩
      rcases prefix_append_cases hprefix with hp | ⟨r, hr, rfl⟩
      · exact hx.balanced.nonneg p hp
      · rcases List.prefix_cons_iff.mp hr with rfl | ⟨s, rfl, hs⟩
        · exact hx.balanced.nonneg _ (by simp)
        · rw [List.prefix_nil.mp hs] at hinner
          simp at hinner
    rw [depth_cons, weight_opening]
    omega
  filled := by
    obtain ⟨z, hz, hoperand⟩ := hx.begins
    obtain ⟨c, hc, hfilled⟩ := hoperand.filled
    exact ⟨c, List.mem_cons_of_mem _ (List.mem_append_left _ (hz.subset hc)), hfilled⟩

/-- A well-formed text is not empty. -/
theorem ne_nil (hx : WellFormed x) : x ≠ [] := by
  obtain ⟨z, hz, hoperand⟩ := hx.begins
  obtain ⟨c, hc, -⟩ := hoperand.filled
  exact List.ne_nil_of_mem (hz.subset hc)

end WellFormed

/-! ## Expressions -/

/-- Whether a text is balanced and has no character of a connective. -/
def Nested (s : String) : Prop := Balanced s.toList ∧ '&' ∉ s.toList ∧ '|' ∉ s.toList

instance (s : String) : Decidable (Nested s) := by unfold Nested; infer_instance

/-- Whether a text can be an atom: it is nested and there is something in it. -/
def IsCell (s : String) : Prop := Nested s ∧ ∃ c ∈ s.toList, c ∉ [' ', '(', ')']

/-- No connective is made of the characters of a nested text. -/
theorem Nested.mark_not_mem {s : String} (h : Nested s) (k : Connective) : k.mark ∉ s.toList := by
  cases k with
  | and => exact h.2.1
  | or => exact h.2.2

/-- An atom is an operand. -/
theorem IsCell.isOperand {s : String} (h : IsCell s) : IsOperand s.toList where
  balanced := h.1.1
  enclosed := by
    intro k p q hpq
    have hmem : k.mark ∈ s.toList := by
      rw [← hpq]
      simp
    exact absurd hmem (h.1.mark_not_mem k)
  filled := h.2

/-- An atom has no connectives. -/
theorem Nested.flanked {s : String} (h : Nested s) : Flanked s.toList := by
  intro k before after heq
  have hmem : k.mark ∈ s.toList := by
    rw [← heq]
    simp
  exact absurd hmem (h.mark_not_mem k)

mutual

/-- A term is an operand, and its connectives stand between operands. -/
theorem Term.isOperand_chars : (t : Term) → (∀ a ∈ t.atoms, IsCell a) →
    IsOperand t.chars ∧ Flanked t.chars
  | .atom text, h => by
      have hcell : IsCell text := h text (by rw [Term.atoms]; exact List.mem_cons_self)
      rw [Term.chars]
      exact ⟨hcell.isOperand, hcell.1.flanked⟩
  | .group first rest, h => by
      rw [Term.atoms, List.forall_mem_append] at h
      obtain ⟨hoperand, hflanked⟩ := Term.isOperand_chars first h.1
      have hinner := wellFormed_append_restChars rest h.2 (hoperand.wellFormed hflanked)
      rw [Term.chars, ← List.append_assoc]
      exact ⟨hinner.isOperand_wrap, hinner.flanked_wrap⟩

/-- The terms after the first keep the text well formed. -/
theorem wellFormed_append_restChars : (l : List (Connective × Term)) →
    (∀ a ∈ restAtoms l, IsCell a) → ∀ {cs : List Char}, WellFormed cs →
      WellFormed (cs ++ restChars l)
  | [], _, cs, hcs => by
      rw [restChars, List.append_nil]
      exact hcs
  | (k, t) :: l, h, cs, hcs => by
      rw [restAtoms, List.forall_mem_append] at h
      obtain ⟨hoperand, hflanked⟩ := Term.isOperand_chars t h.1
      have hjoined := hcs.join k (hoperand.wellFormed hflanked)
      have hrest := wellFormed_append_restChars l h.2 hjoined
      rw [restChars]
      simpa only [List.append_assoc] using hrest

end

/-- **The text of an expression is well formed** when its atoms are cells. -/
theorem Chain.wellFormed (chain : Chain) (h : ∀ a ∈ chain.atoms, IsCell a) :
    WellFormed chain.text.toList := by
  rw [Chain.atoms, List.forall_mem_append] at h
  obtain ⟨hoperand, hflanked⟩ := chain.first.isOperand_chars h.1
  rw [toList_text, Chain.chars]
  exact wellFormed_append_restChars chain.rest h.2 (hoperand.wellFormed hflanked)

mutual

/-- An empty pair of parentheses in a term stands in an atom of it. -/
theorem Term.exists_hollow : (t : Term) → (∀ a ∈ t.atoms, IsCell a) → Hollow t.chars →
    ∃ a ∈ t.atoms, Hollow a.toList
  | .atom text, _, hollow => by
      rw [Term.chars] at hollow
      exact ⟨text, by rw [Term.atoms]; exact List.mem_cons_self, hollow⟩
  | .group first rest, h, hollow => by
      rw [Term.atoms, List.forall_mem_append] at h
      obtain ⟨hoperand, hflanked⟩ := first.isOperand_chars h.1
      have hinner := wellFormed_append_restChars rest h.2 (hoperand.wellFormed hflanked)
      rw [Term.chars, ← List.append_assoc] at hollow
      rw [Term.atoms]
      rcases hoperand.balanced.hollow_append (hinner.balanced.hollow_wrap hinner.ne_nil hollow)
        with hollow | hollow
      · obtain ⟨a, ha, hollow⟩ := Term.exists_hollow first h.1 hollow
        exact ⟨a, List.mem_append_left _ ha, hollow⟩
      · obtain ⟨a, ha, hollow⟩ := exists_hollow_rest rest h.2 hollow
        exact ⟨a, List.mem_append_right _ ha, hollow⟩

/-- An empty pair of parentheses in the terms after the first stands in an atom of one of them. -/
theorem exists_hollow_rest : (l : List (Connective × Term)) → (∀ a ∈ restAtoms l, IsCell a) →
    Hollow (restChars l) → ∃ a ∈ restAtoms l, Hollow a.toList
  | [], _, hollow => absurd hollow (not_hollow_of_not_mem List.not_mem_nil)
  | (k, t) :: l, h, hollow => by
      rw [restAtoms, List.forall_mem_append] at h
      have hsymbol : '(' ∉ k.symbol.toList ∧ ')' ∉ k.symbol.toList := by
        cases k <;> decide
      have hbalanced : Balanced k.symbol.toList := balanced_of_not_mem hsymbol.1 hsymbol.2
      rw [restChars] at hollow
      rw [restAtoms]
      rcases hbalanced.hollow_append hollow with hollow | hollow
      · exact absurd hollow (not_hollow_of_not_mem hsymbol.2)
      rcases (t.isOperand_chars h.1).1.balanced.hollow_append hollow with hollow | hollow
      · obtain ⟨a, ha, hollow⟩ := Term.exists_hollow t h.1 hollow
        exact ⟨a, List.mem_append_left _ ha, hollow⟩
      · obtain ⟨a, ha, hollow⟩ := exists_hollow_rest l h.2 hollow
        exact ⟨a, List.mem_append_right _ ha, hollow⟩

end

/-- **An empty pair of parentheses in an expression stands in an atom of it.** -/
theorem Chain.exists_hollow (chain : Chain) (h : ∀ a ∈ chain.atoms, IsCell a)
    (hollow : Hollow chain.text.toList) : ∃ a ∈ chain.atoms, Hollow a.toList := by
  rw [Chain.atoms, List.forall_mem_append] at h
  rw [toList_text, Chain.chars] at hollow
  rw [Chain.atoms]
  rcases (chain.first.isOperand_chars h.1).1.balanced.hollow_append hollow with hollow | hollow
  · obtain ⟨a, ha, hollow⟩ := chain.first.exists_hollow h.1 hollow
    exact ⟨a, List.mem_append_left _ ha, hollow⟩
  · obtain ⟨a, ha, hollow⟩ := exists_hollow_rest chain.rest h.2 hollow
    exact ⟨a, List.mem_append_right _ ha, hollow⟩

end CollectionSearch.Expression
