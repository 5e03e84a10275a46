import CollectionSearch.Proofs.Filter.NormalForm
import CollectionSearch.Proofs.Params.Wire
import CollectionSearch.Proofs.Repository.Run
import CollectionSearch.Repository.Documents

/-!
# Filters that say nothing

A filter all of whose entries are dropped says nothing. Such a filter must not be mistaken for one
that describes every document: nothing is sent for it, and nothing is deleted.

* `Filter.isDropped` : whether a filter says nothing.

**Main statements:** `isDropped_decides_sending` says that exactly these filters have the empty
expression, are left out of the parameters of a search and delete nothing, and what is sent for the
others.
-/

namespace CollectionSearch

/-- Whether all entries of a filter are dropped. -/
def Filter.isDropped (f : Filter) : Bool := f.entries.all fun e => e.2.isDropped

/-! ## Expressions -/

/-- Exactly the filters that say nothing have the empty expression. -/
theorem Filter.expression_eq_empty_iff (f : Filter) :
    f.expression = "" ↔ f.isDropped = true := by
  rw [f.expression_eq_empty_iff_normalForm, f.normalForm_eq_nil_iff, isDropped, List.all_eq_true]

/-- The parameter for a filter. -/
theorem SearchCriteria.filterParam_of_structured {c : SearchCriteria} {f : Filter}
    (h : c.filter = some (.structured f)) :
    c.filterParam = if f.isDropped then none else some f.expression := by
  have hparam : c.filterParam = nonEmpty f.expression := by
    rw [filterParam, h]
  rw [hparam, nonEmpty]
  by_cases hd : f.isDropped = true
  · rw [if_pos hd, f.expression_eq_empty_iff.mpr hd]
    rfl
  · have hne : ¬ f.expression.isEmpty = true := by
      rw [String.isEmpty_iff, f.expression_eq_empty_iff]
      exact hd
    rw [if_neg hd, if_neg hne]

/-! ## Deletions -/

namespace Repository

variable {D σ : Type} (r : Repository D) (b : Backend σ) {f : Filter}

/-- A filter that says nothing ends the deletion. -/
theorem run_deleteWhere_of_isDropped (h : f.isDropped = true) :
    (r.deleteWhere f).run = (do
      Program.signals (f.compileSignalsFor r.schema)
      Program.event (.emptyDeletion r.name)
      return .ok none) := by
  have hempty : f.expression.isEmpty = true := by
    rw [f.expression_eq_empty_iff.mpr h]
    rfl
  rw [deleteWhere, Action.run_lift_bind, if_pos hempty, Action.run_lift_bind]
  rfl

/-- Any other filter is sent after making sure of the collection. -/
theorem run_deleteWhere_of_not_isDropped (h : f.isDropped = false) :
    (r.deleteWhere f).run = (do
      Program.signals (f.compileSignalsFor r.schema)
      let _ ← r.ensure
      Program.timed .deleteByFilter do
        match ← Program.perform .deleteByFilter (.deleteByFilter r.name f.expression) with
        | .error e => return .error (.backend e)
        | .ok count =>
          Program.event (.deleted r.name f.expression count.toNat)
          return .ok (some count)) := by
  have hne : ¬ f.expression.isEmpty = true := by
    rw [String.isEmpty_iff, f.expression_eq_empty_iff, h]
    exact Bool.false_ne_true
  rw [deleteWhere, Action.run_lift_bind, if_neg hne, Action.run_lift_bind]
  refine bind_congr fun _ => bind_congr fun _ => ?_
  -- an action turns a failed call into its own failure, which takes the outcome to be known
  refine congrArg (Program.timed .deleteByFilter) (congrArg (Program.call _) (funext fun o => ?_))
  cases o <;> rfl

/-- What a deletion ends with when the service was asked, by the outcome of that. -/
def deletionResult : Except BackendError UInt64 → Except RepositoryError (Option UInt64)
  | .ok count => .ok (some count)
  | .error e => .error (.backend e)

/-- A call for a deletion leaves something to be said. -/
theorem deletionResult_ne_none (o : Except BackendError UInt64) : deletionResult o ≠ .ok none := by
  cases o <;> nofun

/-- Setting the collection up deletes no documents. -/
theorem IsSetup.operation_ne {c : Call} (h : r.IsSetup c) : c.operation ≠ .deleteByFilter := by
  rcases h with rfl | rfl <;> nofun

/-- A run with a filter that says nothing calls nothing and returns nothing. -/
theorem deleteWhere_of_isDropped (h : f.isDropped = true) (state : σ) :
    (r.deleteWhere f).run.calls b state = [] ∧
      (r.deleteWhere f).run.value b state = .ok none ∧
      (r.deleteWhere f).run.final b state = state := by
  rw [r.run_deleteWhere_of_isDropped h]
  refine ⟨?_, ?_, ?_⟩
  · simp [Program.calls_bind]
  · simp [Program.value_bind]
  · simp [Program.final_bind]

/-- A run with any other filter makes sure of the collection, and then deletes what the filter
describes. -/
theorem deleteWhere_of_not_isDropped (h : f.isDropped = false) (state : σ) :
    (r.deleteWhere f).run.calls b state =
        r.ensure.calls b state ++ [.deleteByFilter r.name f.expression] ∧
      (r.deleteWhere f).run.value b state =
        deletionResult
          ((b (.deleteByFilter r.name f.expression)).run (r.ensure.final b state)).1 := by
  rw [r.run_deleteWhere_of_not_isDropped h]
  refine ⟨?_, ?_⟩
  · rw [Program.calls_bind, Program.calls_signals, List.nil_append, Program.final_signals,
      Program.calls_bind, Program.calls_timed]
    refine congrArg (r.ensure.calls b state ++ ·) ((Program.calls_bind b _ _ _).trans ?_)
    rw [Program.value_perform]
    cases ((b (.deleteByFilter r.name f.expression)).run (r.ensure.final b state)).1 <;> rfl
  · rw [Program.value_bind, Program.final_signals, Program.value_bind, Program.value_timed]
    refine (Program.value_bind b _ _ _).trans ?_
    rw [Program.value_perform]
    cases ((b (.deleteByFilter r.name f.expression)).run (r.ensure.final b state)).1 <;> rfl

end Repository

/-! ## What is sent -/

/-- **A filter is taken for none exactly when all its entries are dropped.** Then its expression is
empty, no parameter is sent for it, and a deletion calls nothing and returns nothing. Otherwise the
expression is sent, for a search as a parameter and for a deletion in the only call after those
that make sure of the collection, whatever the service answered to them. -/
theorem isDropped_decides_sending (f : Filter) :
    (f.expression = "" ↔ ∀ e ∈ f.entries, e.2.isDropped = true) ∧
      (∀ (c : SearchCriteria) (s : CollectionSchema), c.filter = some (.structured f) →
        ¬ c.Overrides .filterBy →
          (c.toParams s).known .filterBy = (if f.isDropped then none else some f.expression) ∧
          (c.toParams s).toJson.get? "filter_by" =
            if f.isDropped then none else some (.string f.expression)) ∧
      ∀ {D σ : Type} (r : Repository D) (b : Backend σ) (state : σ),
        (f.isDropped = true →
          (r.deleteWhere f).run.calls b state = [] ∧
            (r.deleteWhere f).run.value b state = .ok none ∧
            (r.deleteWhere f).run.final b state = state) ∧
        (f.isDropped = false →
          f.expression ≠ "" ∧
            (r.deleteWhere f).run.calls b state =
              r.ensure.calls b state ++ [.deleteByFilter r.name f.expression] ∧
            (∀ c ∈ r.ensure.calls b state, c.operation ≠ .deleteByFilter) ∧
            (r.deleteWhere f).run.value b state =
              Repository.deletionResult
                ((b (.deleteByFilter r.name f.expression)).run (r.ensure.final b state)).1 ∧
            (r.deleteWhere f).run.value b state ≠ .ok none) := by
  refine ⟨?_, ?_, ?_⟩
  · rw [f.expression_eq_empty_iff, Filter.isDropped, List.all_eq_true]
  · intro c s hfilter hoverrides
    have hparam : c.knownParams s .filterBy = if f.isDropped then none else some f.expression :=
      c.filterParam_of_structured hfilter
    refine ⟨(SearchCriteria.known_toParams s hoverrides).trans hparam, ?_⟩
    refine (SearchCriteria.get?_toJson_toParams s hoverrides).trans ?_
    rw [hparam]
    split <;> rfl
  · intro D σ r b state
    refine ⟨fun h => r.deleteWhere_of_isDropped b h state, fun h => ?_⟩
    obtain ⟨hcalls, hvalue⟩ := r.deleteWhere_of_not_isDropped b h state
    refine ⟨?_, hcalls, ?_, hvalue, ?_⟩
    · rw [ne_eq, f.expression_eq_empty_iff, h]
      exact Bool.false_ne_true
    · exact fun c hc => (r.isSetup_of_mem_calls_ensure b state c hc).operation_ne
    · rw [hvalue]
      exact Repository.deletionResult_ne_none _

/-- A service that fails all calls is asked to delete what the sample filter describes, but nothing
for a filter that says nothing. -/
theorem isDropped_decides_sending_sample :
    let s := CollectionDraft.schema { name := "products" } (by decide)
    let r : Repository Json := ⟨s, {}, .json⟩
    let b : Backend Unit := fun _ => pure (.error .notFound)
    let c : SearchCriteria := { filter := some (.structured Filter.sample), page := some 2 }
    let f : Filter := Filter.empty.null "brand" |>.anyOps "rating" [OrderedMap.empty]
    (c.toParams s).toJson.get? "filter_by" = some (.string Filter.sample.expression) ∧
      (r.deleteWhere Filter.sample).run.calls b () =
        [.collectionExists "products", .deleteByFilter "products" Filter.sample.expression] ∧
      (r.deleteWhere f).run.calls b () = [] ∧ (r.deleteWhere f).run.value b () = .ok none := by
  intro s r b c f
  have hsample : Filter.sample.isDropped = false := by decide
  have hf : f.isDropped = true := by decide
  have hoverrides : ¬ c.Overrides .filterBy := fun ⟨_, ho, _⟩ => nomatch ho
  obtain ⟨-, hsent, hdeleted⟩ := isDropped_decides_sending Filter.sample
  obtain ⟨-, -, hnothing⟩ := isDropped_decides_sending f
  obtain ⟨hcalls, hvalue, -⟩ := (hnothing r b ()).1 hf
  have hparam := (hsent c s rfl hoverrides).2
  rw [if_neg (by rw [hsample]; exact Bool.false_ne_true)] at hparam
  exact ⟨hparam, ((hdeleted r b ()).2 hsample).2.1, hcalls, hvalue⟩

end CollectionSearch
