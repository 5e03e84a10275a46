import CollectionSearch.Proofs.Expression.Reading
import CollectionSearch.Proofs.Filter.NormalForm

/-!
# What filter expressions mean

The expression of a filter is a statement about its atoms. What it says does not depend on which of
the connectives binds tighter, since it never mixes them.

* `Predicate.holds`, `Filter.holds` : what a filter says of its atoms.

**Main statements:** `parse_expression_value` says that the expression of a filter without
structural characters is parsed to an unmixed chain, whose value in every reading is what the
filter says.
-/

namespace CollectionSearch

open Expression

/-! ## Filters -/

section holds

variable (v : String → Bool)

/-- What a predicate says of its atoms: one of them holds, all of a map do, or all of one of the
maps that are not empty. -/
def Predicate.holds (field : String) : Predicate → Bool
  | null => true
  | scalar value => v (field ++ ":=" ++ value.render)
  | anyOf values => v (field ++ ":=" ++ FilterScalar.renderList values)
  | ops map => (OperatorMap.atoms field map).all v
  | anyOps maps =>
    (maps.filter fun map => !map.isEmpty).any fun map => (OperatorMap.atoms field map).all v

/-- What a filter says of its atoms: what its predicates do, except for those that are dropped. -/
def Filter.holds (f : Filter) : Bool :=
  (f.entries.filter fun e => !e.2.isDropped).all fun e => e.2.holds v e.1

end holds

/-! ## Normal forms -/

section value

variable (r : Reading) (v : String → Bool) (field : String)

/-- A comparison says that its atom holds. -/
theorem Comparison.value_term (a : Comparison) : (a.term field).value r v = v (a.text field) := by
  rw [Comparison.term, Term.value]

/-- A group says that all of its comparisons hold. -/
theorem Conjunction.value_term (g : Conjunction) :
    (g.term field).value r v = (g.comparisons.map (Comparison.text field)).all v := by
  have hvalue : Term.value r v ∘ Comparison.term field = v ∘ Comparison.text field :=
    funext fun a => a.value_term r v field
  rcases g with ⟨a, _ | ⟨b, rest⟩⟩
  · rw [Conjunction.term, Comparison.value_term]
    exact (Bool.and_true _).symm
  · rw [Conjunction.term, value_group, value_joined_map, over_and_map, List.all_map, ← hvalue]
    rfl

/-- Some group of the maps holds exactly when all atoms of a map that is not empty do. -/
theorem OperatorMap.any_conjunctions (maps : List OperatorMap) :
    (maps.filterMap OperatorMap.conjunction?).any (fun g => (g.term field).value r v) =
      (maps.filter fun map => !map.isEmpty).any fun map => (OperatorMap.atoms field map).all v := by
  induction maps with
  | nil => rfl
  | cons map rest ih =>
      rcases hg : map.conjunction? with _ | g
      · have hempty : map.isEmpty = true := map.conjunction?_eq_none_iff.mp hg
        rw [List.filterMap_cons_none hg, ih, List.filter_cons_of_neg (by simp [hempty])]
      · have hempty : map.isEmpty = false := by
          rw [← Bool.not_eq_true, ← map.conjunction?_eq_none_iff, hg]
          exact Option.some_ne_none g
        rw [List.filterMap_cons_some hg, List.any_cons, ih,
          List.filter_cons_of_pos (by simp [hempty]), List.any_cons, Conjunction.value_term,
          OperatorMap.comparisons_of_conjunction? hg, OperatorMap.atoms_eq_map_text]

/-- A condition says what the predicate does. -/
theorem Predicate.value_condition {p : Predicate} {c : Condition} (h : p.condition? = some c) :
    (c.term field).value r v = p.holds v field := by
  cases p with
  | null => exact absurd h (by simp [condition?])
  | scalar value =>
      cases h
      exact Comparison.value_term r v field _
  | anyOf values =>
      rcases values with _ | ⟨value, rest⟩
      · exact absurd h (by simp [condition?])
      · cases h
        exact Comparison.value_term r v field _
  | ops map =>
      obtain ⟨g, hg, rfl⟩ := Option.map_eq_some_iff.mp h
      rw [Condition.term, Conjunction.value_term, OperatorMap.comparisons_of_conjunction? hg, holds,
        OperatorMap.atoms_eq_map_text]
  | anyOps maps =>
      rw [holds, ← OperatorMap.any_conjunctions r]
      rw [condition?] at h
      rcases hm : maps.filterMap OperatorMap.conjunction? with _ | ⟨g, gs⟩ <;> rw [hm] at h <;>
        cases h
      rw [Condition.term, value_group, value_joined_map, over_or_map]

/-- The clauses of a filter hold exactly when the filter does. -/
theorem Filter.all_normalForm (f : Filter) :
    (f.normalForm.all fun k => k.term.value r v) = f.holds v := by
  unfold Filter.normalForm Filter.holds
  induction f.entries with
  | nil => rfl
  | cons e rest ih =>
      rcases hc : e.2.condition? with _ | c
      · have hd : e.2.isDropped = true := e.2.condition?_eq_none_iff.mp hc
        rw [List.filterMap_cons_none (by rw [hc]; rfl), ih,
          List.filter_cons_of_neg (by simp [hd])]
      · have hd : e.2.isDropped = false := Predicate.isDropped_of_condition? hc
        rw [List.filterMap_cons_some (by rw [hc]; rfl), List.all_cons, ih,
          List.filter_cons_of_pos (by simp [hd]), List.all_cons, Clause.term,
          Predicate.value_condition r v e.1 hc]

end value

/-- A comparison is unmixed. -/
theorem Comparison.unmixed_term (field : String) (a : Comparison) : (a.term field).Unmixed :=
  trivial

/-- A group is unmixed. -/
theorem Conjunction.unmixed_term (field : String) (g : Conjunction) : (g.term field).Unmixed := by
  rcases g with ⟨a, _ | ⟨b, rest⟩⟩
  · exact a.unmixed_term field
  · exact unmixed_group (unmixed_joined_map .and (Comparison.unmixed_term field) a (b :: rest))

/-- A clause is unmixed. -/
theorem Clause.unmixed_term (k : Clause) : k.term.Unmixed := by
  rcases k with ⟨field, g | ⟨g, gs⟩⟩
  · exact g.unmixed_term field
  · exact unmixed_group (unmixed_joined_map .or (Conjunction.unmixed_term field) g gs)

/-- **The expression of a filter without structural characters says what the filter does**, in all
readings, since it never mixes the connectives. -/
theorem parse_expression_value {f : Filter} (hf : f.Unstructured)
    (hkept : ∃ e ∈ f.entries, e.2.isDropped = false) :
    ∃ chain, parse f.expression = some chain ∧ chain.Unmixed ∧
      ∀ (r : Reading) (v : String → Bool), chain.value r v = f.holds v := by
  obtain ⟨e, he, hd⟩ := hkept
  rcases hform : f.normalForm with _ | ⟨k, rest⟩
  · exact absurd (f.normalForm_eq_nil_iff.mp hform e he) (by rw [hd]; exact Bool.false_ne_true)
  · have hunmixed := unmixed_joined_map .and Clause.unmixed_term k rest
    refine ⟨_, Filter.parse_expression hf hform, hunmixed, ?_⟩
    intro r v
    rw [value_joined_map, over_and_map, ← f.all_normalForm r, hform]

/-- What the sample filter says, in all readings. -/
theorem parse_expression_value_sample :
    Filter.sample.Unstructured ∧
      ∃ chain, parse Filter.sample.expression = some chain ∧ chain.Unmixed ∧
        ∀ (r : Reading) (v : String → Bool), chain.value r v =
          (v "title:=red shoes" && v "size:=[42,XL]" && (v "price:>=10" && v "price:<50") &&
            (v "rating:>4" || v "rating:very good" && v "rating:!=[new,poor]")) := by
  have hunstructured : Filter.sample.Unstructured := by decide
  obtain ⟨chain, hchain, hunmixed, hvalue⟩ :=
    parse_expression_value hunstructured ⟨_, List.mem_cons_self, rfl⟩
  refine ⟨hunstructured, chain, hchain, hunmixed, fun r v => ?_⟩
  have hholds : Filter.sample.holds v = (v "title:=red shoes" && (v "size:=[42,XL]" &&
      (["price:>=10", "price:<50"].all v &&
        ((["rating:>4"].all v || (["rating:very good", "rating:!=[new,poor]"].all v || false)) &&
          true)))) := rfl
  rw [hvalue, hholds]
  simp [Bool.and_assoc]

end CollectionSearch
