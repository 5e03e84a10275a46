import CollectionSearch.Filter.Reading
import CollectionSearch.Proofs.Ordered
import CollectionSearch.Proofs.Repository.Deletion
import Mathlib.Algebra.Order.BigOperators.Group.List
import Mathlib.Algebra.Order.Ring.Nat

/-!
# Comparisons with empty lists

An empty list of values says nothing and has no clause, and neither has a map without comparisons.
A comparison with an empty list says nothing either, but it is written like any other, with nothing
between its brackets.

* `Filter.hasVoid` : whether some comparison of a filter is one with an empty list.
* `Filter.prune` : the filter without such comparisons.
* `takenBy` : how much of a joined text its parts take up.

**Main statements:** `hasVoid_decides_expression` says that the expression of a filter is that of
what pruning leaves exactly when there is nothing to prune, and what a deletion does with a filter
of which pruning leaves nothing. `empty_list_is_written` is such a filter.
-/

namespace CollectionSearch

/-! ## Pruning -/

/-- Whether a comparison with an operand is one with an empty list. -/
def Operand.isVoid (o : Operand) : Bool := o.scalars.isEmpty

/-- Whether some comparison of a map is one with an empty list. -/
def OperatorMap.hasVoid (map : OperatorMap) : Bool := map.entries.any fun e => e.2.isVoid

/-- Whether some comparison of a predicate is one with an empty list. -/
def Predicate.hasVoid : Predicate → Bool
  | ops map => map.hasVoid
  | anyOps maps => maps.any OperatorMap.hasVoid
  | _ => false

/-- Whether some comparison of a filter is one with an empty list. -/
def Filter.hasVoid (f : Filter) : Bool := f.entries.any fun e => e.2.hasVoid

/-- The comparisons of a map that are not with an empty list. -/
def OperatorMap.prune (map : OperatorMap) : OperatorMap where
  entries := map.entries.filter fun e => !e.2.isVoid
  distinct := nodup_keys_filter map.distinct _

/-- A predicate without its comparisons with empty lists. -/
def Predicate.prune : Predicate → Predicate
  | ops map => ops map.prune
  | anyOps maps => anyOps (maps.map OperatorMap.prune)
  | p => p

/-- A filter without its comparisons with empty lists. -/
def Filter.prune (f : Filter) : Filter where
  entries := f.entries.map fun e => (e.1, e.2.prune)
  distinct := by
    rw [List.map_map]
    exact f.distinct

theorem Operand.isVoid_iff (o : Operand) : o.isVoid = true ↔ o = .many [] := by
  rcases o with v | _ | ⟨v, rest⟩ <;> simp [isVoid, scalars]

/-- Nothing is left to prune. -/
theorem OperatorMap.hasVoid_prune (map : OperatorMap) : map.prune.hasVoid = false := by
  rw [hasVoid, prune, List.any_eq_false]
  intro e he
  simpa using (List.mem_filter.mp he).2

theorem Predicate.hasVoid_prune (p : Predicate) : p.prune.hasVoid = false := by
  cases p with
  | ops map => exact map.hasVoid_prune
  | anyOps maps =>
      rw [prune, hasVoid, List.any_map, List.any_eq_false]
      exact fun map _ => Bool.eq_false_iff.mp map.hasVoid_prune
  | _ => rfl

theorem Filter.hasVoid_prune (f : Filter) : f.prune.hasVoid = false := by
  rw [hasVoid, prune, List.any_map, List.any_eq_false]
  exact fun e _ => Bool.eq_false_iff.mp e.2.hasVoid_prune

/-- What has nothing to prune is left as it is. -/
theorem OperatorMap.prune_eq_self {map : OperatorMap} (h : map.hasVoid = false) :
    map.prune = map := by
  refine OrderedMap.ext (List.filter_eq_self.mpr fun e he => ?_)
  rw [hasVoid, List.any_eq_false] at h
  simpa using h e he

theorem Predicate.prune_eq_self {p : Predicate} (h : p.hasVoid = false) : p.prune = p := by
  cases p with
  | ops map => exact congrArg ops (OperatorMap.prune_eq_self h)
  | anyOps maps =>
      rw [hasVoid, List.any_eq_false] at h
      have hself : ∀ map ∈ maps, map.prune = id map := fun map hmap =>
        OperatorMap.prune_eq_self (Bool.eq_false_iff.mpr (h map hmap))
      exact congrArg anyOps ((List.map_congr_left hself).trans (List.map_id maps))
  | _ => rfl

theorem Filter.prune_eq_self {f : Filter} (h : f.hasVoid = false) : f.prune = f := by
  rw [hasVoid, List.any_eq_false] at h
  have hself : ∀ e ∈ f.entries, (e.1, e.2.prune) = id e := fun e he =>
    Prod.ext rfl (Predicate.prune_eq_self (Bool.eq_false_iff.mpr (h e he)))
  exact OrderedMap.ext ((List.map_congr_left hself).trans (List.map_id f.entries))

/-- Exactly the operands that are empty lists are written as such. -/
theorem Operand.toText_eq_void_iff (o : Operand) : o.toText = .many [] ↔ o.isVoid = true := by
  rw [isVoid_iff]
  rcases o with v | _ | ⟨v, rest⟩ <;> simp [toText]

/-- A comparison with an empty list is among the comparisons exactly when there is one. -/
theorem OperatorMap.exists_void_comparison_iff (map : OperatorMap) :
    (∃ a ∈ map.comparisons, a.operand = .many []) ↔ map.hasVoid = true := by
  rw [hasVoid, List.any_eq_true, comparisons]
  constructor
  · rintro ⟨a, ha, hvoid⟩
    obtain ⟨e, he, rfl⟩ := List.mem_map.mp ha
    exact ⟨e, he, e.2.toText_eq_void_iff.mp hvoid⟩
  · rintro ⟨e, he, hvoid⟩
    exact ⟨_, List.mem_map_of_mem he, e.2.toText_eq_void_iff.mpr hvoid⟩

theorem Predicate.exists_void_comparison_iff (p : Predicate) :
    (∃ a ∈ p.comparisons, a.operand = .many []) ↔ p.hasVoid = true := by
  cases p with
  | null => simp [comparisons, hasVoid]
  | scalar value => simp [comparisons, hasVoid]
  | anyOf values => rcases values with _ | ⟨v, rest⟩ <;> simp [comparisons, hasVoid]
  | ops map => exact map.exists_void_comparison_iff
  | anyOps maps =>
      rw [hasVoid, List.any_eq_true, comparisons]
      constructor
      · rintro ⟨a, ha, hvoid⟩
        obtain ⟨map, hmap, ha⟩ := List.mem_flatMap.mp ha
        exact ⟨map, hmap, map.exists_void_comparison_iff.mp ⟨a, ha, hvoid⟩⟩
      · rintro ⟨map, hmap, hvoid⟩
        obtain ⟨a, ha, hvoid⟩ := map.exists_void_comparison_iff.mpr hvoid
        exact ⟨a, List.mem_flatMap.mpr ⟨map, hmap, ha⟩, hvoid⟩

/-- A predicate that is dropped has nothing to prune. -/
theorem Predicate.hasVoid_of_isDropped {p : Predicate} (h : p.isDropped = true) :
    p.hasVoid = false := by
  cases p with
  | ops map =>
      rw [hasVoid, OperatorMap.hasVoid, List.isEmpty_iff.mp h]
      rfl
  | anyOps maps =>
      rw [isDropped, List.all_eq_true] at h
      rw [hasVoid, List.any_eq_false]
      intro map hmap
      rw [OperatorMap.hasVoid, List.isEmpty_iff.mp (h map hmap)]
      exact Bool.false_ne_true
  | _ => rfl

/-- A filter that says nothing has nothing to prune. -/
theorem Filter.hasVoid_of_isDropped {f : Filter} (h : f.isDropped = true) : f.hasVoid = false := by
  rw [isDropped, List.all_eq_true] at h
  rw [hasVoid, List.any_eq_false]
  intro e he
  rw [Predicate.hasVoid_of_isDropped (h e he)]
  exact Bool.false_ne_true

/-! ## Lengths -/

/-- How long joined texts are. -/
theorem Text.length_intercalate (sep : String) : (l : List String) →
    (sep.intercalate l).length = (l.map String.length).sum + sep.length * (l.length - 1)
  | [] => rfl
  | [s] => by rw [String.intercalate_singleton, List.map_singleton, List.sum_singleton]; rfl
  | s :: t :: rest => by
      rw [String.intercalate_cons_cons, String.length_append, String.length_append,
        Text.length_intercalate sep (t :: rest)]
      simp only [List.map_cons, List.sum_cons, List.length_cons]
      rw [Nat.add_sub_cancel, Nat.add_sub_cancel, Nat.mul_succ]
      omega

/-- How much of a joined text a part takes up, with one of the separators of expressions, which all
have the same length. A part that is left out takes up nothing. -/
def takenBy (part : Option String) : Nat := part.elim 0 fun s => s.length + 4

/-- What the parts take up that are not left out. -/
theorem sum_takenBy {α : Type} (part : α → Option String) (l : List α) :
    (l.map fun a => takenBy (part a)).sum =
      ((l.filterMap part).map String.length).sum + 4 * (l.filterMap part).length := by
  induction l with
  | nil => rfl
  | cons a rest ih =>
      rw [List.map_cons, List.sum_cons, ih, List.filterMap_cons]
      rcases part a with _ | s
      · exact Nat.zero_add _
      · rw [takenBy, Option.elim_some, List.map_cons, List.sum_cons, List.length_cons]
        omega

/-- The text of a map of comparisons, unless it is empty. -/
def OperatorMap.text? (field : String) (map : OperatorMap) : Option String :=
  if (OperatorMap.atoms field map).isEmpty then none
  else some (conjunction (OperatorMap.atoms field map))

/-- Beside its atoms a group takes up parentheses, if it has several. -/
theorem OperatorMap.takenBy_text? (field : String) (map : OperatorMap) :
    takenBy (map.text? field) =
      ((OperatorMap.atoms field map).map String.length).sum +
        4 * (OperatorMap.atoms field map).length +
        if 2 ≤ (OperatorMap.atoms field map).length then 2 else 0 := by
  rw [text?]
  rcases OperatorMap.atoms field map with _ | ⟨a, _ | ⟨b, rest⟩⟩
  · rfl
  · simp [takenBy, conjunction]
  · have hlen : (conjunction (a :: b :: rest)).length =
        ((a :: b :: rest).map String.length).sum + 4 * ((a :: b :: rest).length - 1) + 2 := by
      rw [conjunction, String.length_append, String.length_append, Text.length_intercalate]
      · change 1 + (_ + 4 * _) + 1 = _
        omega
      · nofun
    rw [if_neg (by simp), takenBy, Option.elim_some, hlen, List.length_cons, List.length_cons]
    rw [if_pos (by omega)]
    omega

/-- The alternatives are the texts of the maps that are not empty. -/
theorem OperatorMap.map_conjunction_groups (field : String) (maps : List OperatorMap) :
    (OperatorMap.groups field maps).map conjunction = maps.filterMap (OperatorMap.text? field) := by
  unfold OperatorMap.groups
  induction maps with
  | nil => rfl
  | cons map rest ih =>
      rw [List.map_cons, List.filter_cons, List.filterMap_cons, ← ih, text?]
      cases (OperatorMap.atoms field map).isEmpty <;> rfl

/-- The text of alternatives takes up what the alternatives do, and parentheses. -/
theorem Predicate.takenBy_anyOps (field : String) (maps : List OperatorMap) :
    takenBy ((anyOps maps).clause? field) =
      if (maps.map fun map => takenBy (map.text? field)).sum = 0 then 0
      else (maps.map fun map => takenBy (map.text? field)).sum + 2 := by
  rw [sum_takenBy, ← OperatorMap.map_conjunction_groups, clause?]
  rcases OperatorMap.groups field maps with _ | ⟨g, gs⟩
  · rfl
  · have hlen : ("(" ++ " || ".intercalate ((g :: gs).map conjunction) ++ ")").length =
        (((g :: gs).map conjunction).map String.length).sum +
          4 * (((g :: gs).map conjunction).length - 1) + 2 := by
      rw [String.length_append, String.length_append, Text.length_intercalate]
      change 1 + (_ + 4 * _) + 1 = _
      omega
    rw [if_neg (by simp), takenBy, Option.elim_some, hlen, List.length_map, List.length_cons]
    rw [if_neg (by omega)]
    omega

/-- The expression of a filter takes up what its clauses do, but for one separator. -/
theorem Filter.length_expression (f : Filter) :
    f.expression.length = (f.entries.map fun e => takenBy (e.2.clause? e.1)).sum - 4 := by
  rw [expression, Text.length_intercalate, sum_takenBy]
  change _ + 4 * (f.clauses.length - 1) =
    (f.clauses.map String.length).sum + 4 * f.clauses.length - 4
  rcases f.clauses with _ | ⟨s, rest⟩
  · rfl
  · rw [List.length_cons]
    omega

/-! ## Pruning makes expressions shorter -/

theorem OperatorMap.takenBy_prune (field : String) (map : OperatorMap) :
    takenBy (map.prune.text? field) ≤ takenBy (map.text? field) ∧
      (map.hasVoid = true → takenBy (map.prune.text? field) < takenBy (map.text? field)) := by
  have hatoms : (OperatorMap.atoms field map.prune).Sublist (OperatorMap.atoms field map) :=
    List.filter_sublist.map _
  have hsum := (hatoms.map String.length).sum_le_sum fun n _ => n.zero_le
  have hlength := hatoms.length_le
  rw [takenBy_text?, takenBy_text?]
  refine ⟨by split_ifs <;> omega, fun hvoid => ?_⟩
  have hshorter : (OperatorMap.atoms field map.prune).length <
      (OperatorMap.atoms field map).length := by
    obtain ⟨e, he, hevoid⟩ := List.any_eq_true.mp hvoid
    rw [atoms, atoms, List.length_map, List.length_map]
    refine List.length_filter_lt_length_iff_exists.mpr ⟨e, he, ?_⟩
    rw [hevoid]
    exact Bool.false_ne_true
  split_ifs <;> omega

theorem Predicate.takenBy_prune (field : String) (p : Predicate) :
    takenBy (p.prune.clause? field) ≤ takenBy (p.clause? field) ∧
      (p.hasVoid = true → takenBy (p.prune.clause? field) < takenBy (p.clause? field)) := by
  cases p with
  | ops map => exact map.takenBy_prune field
  | anyOps maps =>
      rw [prune, takenBy_anyOps, takenBy_anyOps, List.map_map, Function.comp_def]
      have hle := List.sum_le_sum fun map (_ : map ∈ maps) => (map.takenBy_prune field).1
      refine ⟨by split_ifs <;> omega, fun hvoid => ?_⟩
      have hlt : (maps.map fun map => takenBy (map.prune.text? field)).sum <
          (maps.map fun map => takenBy (map.text? field)).sum := by
        obtain ⟨map, hmap, hvoid⟩ := List.any_eq_true.mp hvoid
        exact List.sum_lt_sum _ _ (fun map _ => (map.takenBy_prune field).1)
          ⟨map, hmap, (map.takenBy_prune field).2 hvoid⟩
      split_ifs <;> omega
  | _ => exact ⟨le_rfl, nofun⟩

/-- **Pruning changes the expression of a filter exactly when there is something to prune.** It then
makes the expression shorter. -/
theorem Filter.expression_prune_eq_iff (f : Filter) :
    f.prune.expression = f.expression ↔ f.hasVoid = false := by
  refine ⟨fun heq => ?_, fun h => congrArg Filter.expression (prune_eq_self h)⟩
  by_contra hvoid
  rw [Bool.not_eq_false] at hvoid
  have hlt : (f.prune.entries.map fun e => takenBy (e.2.clause? e.1)).sum <
      (f.entries.map fun e => takenBy (e.2.clause? e.1)).sum := by
    obtain ⟨e, he, hevoid⟩ := List.any_eq_true.mp hvoid
    rw [prune, List.map_map]
    exact List.sum_lt_sum _ _ (fun e _ => (e.2.takenBy_prune e.1).1)
      ⟨e, he, (e.2.takenBy_prune e.1).2 hevoid⟩
  -- so a common expression would be empty, and the filter would say nothing
  have hlength := congrArg String.length heq
  rw [length_expression, length_expression] at hlength
  have hempty : f.expression.length = 0 := by
    rw [length_expression]
    omega
  rw [String.length_eq_zero_iff, f.expression_eq_empty_iff] at hempty
  rw [hasVoid_of_isDropped hempty] at hvoid
  cases hvoid

/-! ## What is written of empty lists -/

/-- A comparison with an empty list is in the normal form exactly when there is one in the
filter. -/
theorem Filter.exists_void_comparison_iff (f : Filter) :
    (∃ k ∈ f.normalForm, ∃ a ∈ k.condition.comparisons, a.operand = .many []) ↔
      f.hasVoid = true := by
  rw [hasVoid, List.any_eq_true]
  constructor
  · rintro ⟨k, hk, a, ha, hvoid⟩
    obtain ⟨e, he, -, hc⟩ := Filter.exists_entry hk
    rw [Predicate.comparisons_of_condition? hc] at ha
    exact ⟨e, he, e.2.exists_void_comparison_iff.mp ⟨a, ha, hvoid⟩⟩
  · rintro ⟨e, he, hevoid⟩
    obtain ⟨a, ha, hvoid⟩ := e.2.exists_void_comparison_iff.mpr hevoid
    obtain ⟨c, hc⟩ : ∃ c, e.2.condition? = some c := by
      rw [← Option.ne_none_iff_exists', ne_eq, e.2.condition?_eq_none_iff]
      intro hdropped
      rw [Predicate.hasVoid_of_isDropped hdropped] at hevoid
      cases hevoid
    refine ⟨⟨e.1, c⟩, List.mem_filterMap.mpr ⟨e, he, by rw [hc]; rfl⟩, a, ?_, hvoid⟩
    rw [Predicate.comparisons_of_condition? hc]
    exact ha

/-- **Comparisons with empty lists are written, and nothing else is.** The expression of a filter is
that of the filter without them exactly when it has none, and exactly then none of the comparisons
that are written has an empty list for its operand. A deletion by a filter that says nothing else
calls nothing and returns nothing if it has no such comparison. If it has one, the service is asked
to delete what the expression describes. -/
theorem hasVoid_decides_expression (f : Filter) :
    (f.prune.expression = f.expression ↔ f.hasVoid = false) ∧
      ((∃ k ∈ f.normalForm, ∃ a ∈ k.condition.comparisons, a.operand = .many []) ↔
        f.hasVoid = true) ∧
      f.prune.hasVoid = false ∧
      (f.prune.isDropped = true → ∀ {D σ : Type} (r : Repository D) (b : Backend σ) (state : σ),
        (f.hasVoid = false →
          f.expression = "" ∧
            (r.deleteWhere f).run.calls b state = [] ∧
            (r.deleteWhere f).run.value b state = .ok none ∧
            (r.deleteWhere f).run.final b state = state) ∧
        (f.hasVoid = true →
          f.expression ≠ "" ∧
            (r.deleteWhere f).run.calls b state =
              r.ensure.calls b state ++ [.deleteByFilter r.name f.expression] ∧
            (r.deleteWhere f).run.value b state =
              Repository.deletionResult
                ((b (.deleteByFilter r.name f.expression)).run (r.ensure.final b state)).1)) := by
  refine ⟨f.expression_prune_eq_iff, f.exists_void_comparison_iff, f.hasVoid_prune, ?_⟩
  intro hdropped D σ r b state
  constructor
  · intro hvoid
    rw [Filter.prune_eq_self hvoid] at hdropped
    exact ⟨f.expression_eq_empty_iff.mpr hdropped, r.deleteWhere_of_isDropped b hdropped state⟩
  · intro hvoid
    have hkept : f.isDropped = false := by
      by_contra h
      rw [Bool.not_eq_false] at h
      rw [Filter.hasVoid_of_isDropped h] at hvoid
      cases hvoid
    refine ⟨?_, r.deleteWhere_of_not_isDropped b hkept state⟩
    rw [ne_eq, f.expression_eq_empty_iff, hkept]
    exact Bool.false_ne_true

/-- A filter whose only comparisons are with empty lists. -/
def Filter.voidSample : Filter :=
  Filter.empty.anyOps "rating" [OrderedMap.empty.insert .gt (.many []), OrderedMap.empty]

/-- Nothing is pruned from the sample filter. For the filter with comparisons with empty lists only
a service that fails all calls is asked to delete. -/
theorem hasVoid_decides_expression_sample :
    let s := CollectionDraft.schema { name := "products" } (by decide)
    let r : Repository Json := ⟨s, {}, .json⟩
    let b : Backend Unit := fun _ => pure (.error .notFound)
    Filter.sample.prune.expression = Filter.sample.expression ∧
      Filter.voidSample.prune.isDropped = true ∧
      Filter.voidSample.prune.expression ≠ Filter.voidSample.expression ∧
      (r.deleteWhere Filter.voidSample).run.calls b () =
        [.collectionExists "products", .deleteByFilter "products" Filter.voidSample.expression] ∧
      (r.deleteWhere Filter.voidSample).run.value b () = .error (.backend .notFound) := by
  intro s r b
  have hsample : Filter.sample.hasVoid = false := by decide
  have hvoid : Filter.voidSample.hasVoid = true := by decide
  have hdropped : Filter.voidSample.prune.isDropped = true := by decide
  obtain ⟨hchanged, -, -, hsent⟩ := hasVoid_decides_expression Filter.voidSample
  obtain ⟨-, hcalls, hvalue⟩ := (hsent hdropped r b ()).2 hvoid
  refine ⟨(hasVoid_decides_expression Filter.sample).1.mpr hsample, hdropped, ?_, hcalls, hvalue⟩
  rw [ne_eq, hchanged, hvoid]
  exact Bool.noConfusion

/-- **A comparison with an empty list is written.** It is accepted in a JSON filter, nothing is left
of the filter without it, and the service is asked to delete all documents that it describes. -/
theorem empty_list_is_written :
    let f : Filter := Filter.empty.ops "id" (OrderedMap.empty.insert .neq (.many []))
    let s := CollectionDraft.schema { name := "products" } (by decide)
    let r : Repository Json := ⟨s, {}, .json⟩
    let b : Backend Unit := fun _ => pure (.error .notFound)
    Filter.ofJson (.object [("id", .object [("neq", .array [])])]) = .ok f ∧
      f.prune.expression = "" ∧ f.expression = "id:!=[]" ∧
      (r.deleteWhere f).run.calls b () =
        [.collectionExists "products", .deleteByFilter "products" "id:!=[]"] ∧
      (r.deleteWhere f).run.value b () ≠ .ok none :=
  ⟨rfl, rfl, rfl, rfl, nofun⟩

end CollectionSearch
