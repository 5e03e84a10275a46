import CollectionSearch.Proofs.Expression.Operand
import CollectionSearch.Proofs.Text.Split

/-!
# The clauses of an expression

An expression is a chain of clauses with `&&` between each two. They can be told from its text
alone, since a clause ends at the first `&&` that is not inside of parentheses.

* `cut` : the pieces of a text between the `&&` outside of parentheses.
* `topClauses` : the clauses of a text; the empty text has none.

**Main statements:** `cut_append` takes off a text in which every `&` is inside of parentheses, and
`topClauses_intercalate` gives joined operands back one by one.
-/

namespace CollectionSearch.Expression

/-- The pieces of a text between the `&&` outside of parentheses, when some are open already. -/
def cut (opened : Int) : List Char → List (List Char)
  | [] => [[]]
  | c :: cs =>
    if opened = 0 ∧ Connective.and.symbol.toList <+: c :: cs then [] :: cut 0 (cs.drop 3)
    else (cut (opened + weight c) cs).modifyHead (c :: ·)
  termination_by cs => cs.length

/-- The clauses of a text. -/
def topClauses (s : String) : List String :=
  if s = "" then [] else (cut 0 s.toList).map String.ofList

/-! ## Joined operands -/

@[simp] theorem cut_nil (opened : Int) : cut opened [] = [[]] := by rw [cut]

/-- Outside of parentheses a text is cut at the connective. -/
theorem cut_symbol_append (cs : List Char) :
    cut 0 (Connective.and.symbol.toList ++ cs) = [] :: cut 0 cs := by
  have hprefix : Connective.and.symbol.toList <+: ' ' :: ('&' :: '&' :: ' ' :: cs) := ⟨cs, rfl⟩
  rw [Connective.toList_symbol, List.cons_append, cut, if_pos ⟨rfl, hprefix⟩]
  rfl

/-- A text in which every `&` is inside of parentheses is not cut, unless its end makes a connective
with what follows. -/
theorem cut_append : (x : List Char) → (opened : Int) →
    (∀ p q, p ++ '&' :: q = x → 0 < opened + depth p) → ∀ {rest : List Char},
      rest.head? ≠ some '&' →
        cut opened (x ++ rest) = (cut (opened + depth x) rest).modifyHead (x ++ ·)
  | [], opened, _, rest, _ => by
      rw [List.nil_append, depth_nil, Int.add_zero]
      exact (congrFun List.modifyHead_id _).symm
  | c :: cs, opened, h, rest, hrest => by
      have hinner : ∀ p q, p ++ '&' :: q = cs → 0 < opened + weight c + depth p := by
        intro p q hpq
        have hlt := h (c :: p) q (by rw [← hpq]; rfl)
        rwa [depth_cons, ← Int.add_assoc] at hlt
      -- the `&` of a connective that begins here would be in the text, or in front of what follows
      have hnot : ¬ (opened = 0 ∧ Connective.and.symbol.toList <+: c :: (cs ++ rest)) := by
        rintro ⟨rfl, t, ht⟩
        obtain ⟨hblank, hmark⟩ : ' ' = c ∧ '&' :: '&' :: ' ' :: t = cs ++ rest :=
          List.cons_eq_cons.mp ht
        subst hblank
        rcases cs with _ | ⟨d, cs⟩
        · exact hrest (by rw [← List.nil_append rest, ← hmark]; rfl)
        · obtain rfl : '&' = d := (List.cons_eq_cons.mp hmark).1
          exact absurd (h [' '] cs rfl) (by decide)
      rw [List.cons_append, cut, if_neg hnot, cut_append cs _ hinner hrest, depth_cons,
        ← Int.add_assoc, List.modifyHead_modifyHead]
      rfl

/-- An operand is not cut. -/
theorem IsOperand.cut_append {x : List Char} (hx : IsOperand x) {rest : List Char}
    (hrest : rest.head? ≠ some '&') : cut 0 (x ++ rest) = (cut 0 rest).modifyHead (x ++ ·) := by
  have henclosed : ∀ p q, p ++ '&' :: q = x → 0 < 0 + depth p := by
    intro p q hpq
    rw [Int.zero_add]
    exact hx.enclosed .and p q hpq
  rw [Expression.cut_append x 0 henclosed hrest, hx.balanced.settled, Int.add_zero]

/-- Joined operands are cut into the operands. -/
theorem cut_intercalate : (x : List Char) → (others : List (List Char)) →
    (∀ y ∈ x :: others, IsOperand y) →
      cut 0 (Connective.and.symbol.toList.intercalate (x :: others)) = x :: others
  | x, [], h => by
      have hx : IsOperand x := h x List.mem_cons_self
      have hcut : cut 0 (x ++ []) = (cut 0 []).modifyHead (x ++ ·) := hx.cut_append (by simp)
      rw [List.append_nil] at hcut
      rw [List.intercalate_singleton, hcut]
      simp
  | x, y :: others, h => by
      have hx : IsOperand x := h x List.mem_cons_self
      have ih := cut_intercalate y others fun z hz => h z (List.mem_cons_of_mem x hz)
      rw [List.intercalate_cons_cons, List.append_assoc,
        hx.cut_append (by simp [Connective.symbol]), cut_symbol_append, ih]
      simp

/-- **Joined operands are the clauses of their text.** -/
theorem topClauses_intercalate {l : List String} (h : ∀ s ∈ l, IsOperand s.toList) :
    topClauses (" && ".intercalate l) = l := by
  rcases l with _ | ⟨s, others⟩
  · rfl
  · have hne : " && ".intercalate (s :: others) ≠ "" := by
      rw [ne_eq, Text.intercalate_cons_eq_empty_iff (by decide)]
      rintro ⟨rfl, -⟩
      obtain ⟨c, hc, -⟩ := (h "" List.mem_cons_self).filled
      exact absurd hc List.not_mem_nil
    have hcut := cut_intercalate s.toList (others.map String.toList) (by
      rw [← List.map_cons, List.forall_mem_map]
      exact h)
    have htext : (" && ".intercalate (s :: others)).toList =
        Connective.and.symbol.toList.intercalate (s.toList :: others.map String.toList) := by
      rw [String.toList_intercalate, List.map_cons]
      rfl
    rw [topClauses, if_neg hne, htext, hcut, ← List.map_cons, List.map_map]
    exact (List.map_congr_left fun t _ => String.ofList_toList).trans (List.map_id _)

end CollectionSearch.Expression
