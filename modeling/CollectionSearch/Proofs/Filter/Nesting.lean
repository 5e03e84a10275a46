import CollectionSearch.Proofs.Expression.Operand
import CollectionSearch.Proofs.Filter.NormalForm

/-!
# Well-formed filter expressions

Fields and values may have parentheses in them. As long as these are balanced and no connective is
spelled, the expression of a filter is well formed: no entry that is dropped, no map without
comparisons and no group of a single member leaves a connective or a pair of parentheses behind.

* `FilterScalar.Nested`, `Filter.Nested` : whether the parentheses in values and fields are
  balanced, without a character of a connective.
* `Filter.Mentions` : whether a text is a field of a filter or a text value of it.

**Main statements:** `expression_wellFormed` says that the expression of a nested filter is
balanced, that its connectives stand between operands, and that every empty pair of parentheses in
it comes from a field or a value.
-/

namespace CollectionSearch

open Expression

/-! ## Nested filters -/

/-- Whether a value is balanced and has no character of a connective. Numbers and truth values
always are. -/
def FilterScalar.Nested : FilterScalar → Prop
  | text s => Expression.Nested s
  | _ => True

/-- Whether the fields and the values of a filter are. -/
def Filter.Nested (f : Filter) : Prop :=
  ∀ e ∈ f.entries, Expression.Nested e.1 ∧ ∀ v ∈ e.2.scalars, v.Nested

instance : (v : FilterScalar) → Decidable v.Nested
  | .text s => inferInstanceAs (Decidable (Expression.Nested s))
  | .int _ => isTrue trivial
  | .float _ => isTrue trivial
  | .bool _ => isTrue trivial

instance (f : Filter) : Decidable f.Nested := by unfold Filter.Nested; infer_instance

/-- Whether a text is a field of a filter or one of its text values. -/
def Filter.Mentions (f : Filter) (s : String) : Prop :=
  ∃ e ∈ f.entries, e.1 = s ∨ .text s ∈ e.2.scalars

/-- Nested texts can be put together. -/
theorem Expression.Nested.append {s t : String} (hs : Expression.Nested s)
    (ht : Expression.Nested t) : Expression.Nested (s ++ t) := by
  obtain ⟨hbalanced, hand, hor⟩ := hs
  obtain ⟨hbalanced', hand', hor'⟩ := ht
  unfold Expression.Nested
  rw [String.toList_append]
  simp only [List.mem_append, not_or]
  exact ⟨hbalanced.append hbalanced', ⟨hand, hand'⟩, ⟨hor, hor'⟩⟩

/-- A text without structural characters is nested. -/
theorem Expression.Unstructured.nested {s : String} (h : Expression.Unstructured s) :
    Expression.Nested s := by
  have hnot : ∀ c ∈ structural, c ∉ s.toList := fun c hc hmem => h c hmem hc
  exact ⟨balanced_of_not_mem (hnot '(' (by decide)) (hnot ')' (by decide)),
    hnot '&' (by decide), hnot '|' (by decide)⟩

/-- A text without structural characters has no empty pair of parentheses. -/
theorem Expression.Unstructured.not_hollow {s : String} (h : Expression.Unstructured s) :
    ¬ Hollow s.toList := by
  apply not_hollow_of_not_mem
  intro hmem
  exact h ')' hmem (by decide)

/-- The text of a nested value is nested. -/
theorem FilterScalar.nested_render : (v : FilterScalar) → v.Nested → Expression.Nested v.render
  | .text _, h => h
  | .int n, _ => (unstructured_render (.int n) trivial).nested
  | .float x, _ => (unstructured_render (.float x) trivial).nested
  | .bool b, _ => (unstructured_render (.bool b) trivial).nested

/-- An empty pair of parentheses in the text of a value makes it a text value. -/
theorem FilterScalar.eq_text_of_hollow : {v : FilterScalar} → Hollow v.render.toList →
    v = .text v.render
  | .text _, _ => rfl
  | .int n, h => absurd h (unstructured_render (.int n) trivial).not_hollow
  | .float x, h => absurd h (unstructured_render (.float x) trivial).not_hollow
  | .bool b, h => absurd h (unstructured_render (.bool b) trivial).not_hollow

/-! ## Atoms -/

/-- The atoms of the clauses of a nested filter are cells. -/
theorem Filter.Nested.isCell {f : Filter} (hf : f.Nested) {k : Clause} (hk : k ∈ f.normalForm) :
    ∀ s ∈ k.term.atoms, IsCell s := by
  intro s hs
  refine ⟨?_, ?_⟩
  · have hparts : ∀ e ∈ f.entries, Expression.Nested e.1 ∧
        ∀ v ∈ e.2.scalars, Expression.Nested v.render :=
      fun e he => ⟨(hf e he).1, fun v hv => v.nested_render ((hf e he).2 v hv)⟩
    exact Filter.atom_closed (by decide) Expression.Nested.append hparts hk s hs
  · -- every atom has the colon of its operator
    rw [Clause.term, Condition.atoms_term] at hs
    obtain ⟨a, -, rfl⟩ := List.mem_map.mp hs
    refine ⟨':', ?_, by decide⟩
    have hcolon : ':' ∈ a.operator.token.toList := by
      cases a.operator <;> decide
    rw [Comparison.text, String.toList_append, String.toList_append]
    exact List.mem_append_left _ (List.mem_append_right _ hcolon)

/-- An empty pair of parentheses in an atom of a nested filter stands in a text that the filter
mentions. -/
theorem Filter.Nested.exists_mentions {f : Filter} (hf : f.Nested) {k : Clause}
    (hk : k ∈ f.normalForm) {s : String} (hs : s ∈ k.term.atoms) (hollow : Hollow s.toList) :
    ∃ t, f.Mentions t ∧ Hollow t.toList := by
  -- what is appended to a balanced text adds no pair that was not in one of the two
  have hclosed : Expression.Nested s ∧ (Hollow s.toList → ∃ t, f.Mentions t ∧ Hollow t.toList) := by
    refine Filter.atom_closed (P := fun s => Expression.Nested s ∧
      (Hollow s.toList → ∃ t, f.Mentions t ∧ Hollow t.toList)) ?_ ?_ ?_ hk s hs
    · intro m hm
      have hmark : ∀ m ∈ atomMarks, Expression.Nested m ∧ ¬ Hollow m.toList := by decide
      exact ⟨(hmark m hm).1, fun h => absurd h (hmark m hm).2⟩
    · rintro s t ⟨hs, hollow⟩ ⟨ht, hollow'⟩
      refine ⟨hs.append ht, fun h => ?_⟩
      rw [String.toList_append] at h
      exact (hs.1.hollow_append h).elim hollow hollow'
    · intro e he
      refine ⟨⟨(hf e he).1, fun h => ⟨e.1, ⟨e, he, .inl rfl⟩, h⟩⟩, fun v hv => ?_⟩
      refine ⟨v.nested_render ((hf e he).2 v hv), fun h => ?_⟩
      exact ⟨v.render, ⟨e, he, .inr (FilterScalar.eq_text_of_hollow h ▸ hv)⟩, h⟩
  exact hclosed.2 hollow

/-! ## Expressions -/

/-- **The expression of a nested filter is well formed.** Its parentheses are balanced, each of its
connectives stands between two operands, and an empty pair of parentheses in it is part of a field
or a text value. -/
theorem expression_wellFormed {f : Filter} (hf : f.Nested) :
    Balanced f.expression.toList ∧ Flanked f.expression.toList ∧
      (Hollow f.expression.toList → ∃ s, f.Mentions s ∧ Hollow s.toList) := by
  rcases hform : f.normalForm with _ | ⟨k, rest⟩
  · rw [f.expression_eq_empty_iff_normalForm.mpr hform]
    refine ⟨by decide, ?_, fun hollow => absurd hollow (by decide)⟩
    intro j before after h
    exact absurd h (by simp)
  · rw [Filter.expression_of_normalForm hform]
    have hatoms : ∀ s ∈ (Chain.joined .and k.term (rest.map Clause.term)).atoms,
        ∃ d ∈ f.normalForm, s ∈ d.term.atoms := by
      intro s hs
      rw [atoms_joined_map, ← hform] at hs
      exact List.mem_flatMap.mp hs
    have hcells : ∀ s ∈ (Chain.joined .and k.term (rest.map Clause.term)).atoms, IsCell s := by
      intro s hs
      obtain ⟨d, hd, hs⟩ := hatoms s hs
      exact hf.isCell hd s hs
    have hformed := Chain.wellFormed _ hcells
    refine ⟨hformed.balanced, hformed.flanked, fun hollow => ?_⟩
    obtain ⟨s, hs, hollow⟩ := Chain.exists_hollow _ hcells hollow
    obtain ⟨d, hd, hs⟩ := hatoms s hs
    exact hf.exists_mentions hd hs hollow

/-- A filter whose fields and values have parentheses of their own, with an entry that is dropped
and maps without comparisons. -/
def Filter.parenthesised : Filter :=
  let none : OperatorMap := OrderedMap.empty
  let calls := none.insert .contains (.one (.text "f()"))
    |>.insert .neq (.many [.text "", .text "(x)"])
  let single := none.insert .gt (.one (.int 4))
  Filter.empty.eq "size (cm)" (.text "") |>.null "brand" |>.anyOps "call" [none, calls, single]
    |>.anyOf "" [.text "(a(b))"]

/-- The expression of this filter is well formed, and the empty pair in it is part of a value. -/
theorem expression_wellFormed_parenthesised :
    Filter.parenthesised.Nested ∧
      Filter.parenthesised.expression =
        "size (cm):= && ((call:f() && call:!=[,(x)]) || call:>4) && :=[(a(b))]" ∧
      Balanced Filter.parenthesised.expression.toList ∧
      Flanked Filter.parenthesised.expression.toList ∧
      ∃ s, Filter.parenthesised.Mentions s ∧ Hollow s.toList := by
  have hnested : Filter.parenthesised.Nested := by decide
  obtain ⟨hbalanced, hflanked, hollow⟩ := expression_wellFormed hnested
  exact ⟨hnested, by decide, hbalanced, hflanked, hollow (by decide)⟩

end CollectionSearch
