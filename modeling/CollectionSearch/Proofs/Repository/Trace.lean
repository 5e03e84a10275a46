import CollectionSearch.Proofs.Repository.Guard
import CollectionSearch.Proofs.Repository.Interleaving

/-!
# Traces

All that a run leaves behind, its signals included, by the way the program is put together.

* `Program.steps` : the steps of a run, in order; `Program.samples` : the samples among them.
* `Repository.Prepares` : the exchanges with which the collection is made sure of.

**Main statements:** `steps_bind`, `samples_bind` and `exchanges_bind` run one program after the
other, `exchanges_silent` says that signals do not count among the exchanges, and
`exists_prepares_of_silent_eq` what an operation does that makes sure of the collection and then
makes one call.
-/

namespace CollectionSearch

/-- The sample of a step, if it takes one. -/
def Step.sample? : Step → Option Sample
  | signal (.sample s) => some s
  | _ => none

namespace Program

variable {α β σ : Type} (b : Backend σ)

/-! ## Steps -/

/-- The steps of a run, in order. -/
def steps (p : Program α) (state : σ) : List Step := (p.run b state).2.1

/-- The steps of the second program come after those of the first. -/
theorem steps_bind (k : α → Program β) : (p : Program α) → (state : σ) →
    (p >>= k).steps b state =
      p.steps b state ++ (k (p.value b state)).steps b (p.final b state)
  | done _, _ => rfl
  | emit s next, state => congrArg (Step.signal s :: ·) (steps_bind k next state)
  | call c next, state => congrArg (Step.call c ((b c).run state).1 :: ·) (steps_bind k (next _) _)

/-! ## Samples -/

/-- The samples of a run, in order. -/
def samples (p : Program α) (state : σ) : List Sample :=
  (p.steps b state).filterMap Step.sample?

@[simp] theorem samples_done (a : α) (state : σ) : (done a).samples b state = [] := rfl

/-- The samples of the second program come after those of the first. -/
theorem samples_bind (k : α → Program β) (p : Program α) (state : σ) :
    (p >>= k).samples b state =
      p.samples b state ++ (k (p.value b state)).samples b (p.final b state) := by
  rw [samples, steps_bind, List.filterMap_append]
  rfl

/-- A call is followed by its sample. -/
@[simp] theorem samples_perform (operation : Operation) (c : Call) (state : σ) :
    (perform operation c).samples b state =
      [.backendOperation operation (.of ((b c).run state).1)] := rfl

/-! ## Exchanges -/

@[simp] theorem exchanges_perform (operation : Operation) (c : Call) (state : σ) :
    (perform operation c).exchanges b state = [⟨c, ((b c).run state).1⟩] := rfl

theorem exchanges_eq_filterMap_steps (p : Program α) (state : σ) :
    p.exchanges b state = (p.steps b state).filterMap Step.exchange? := rfl

/-- The calls of a run are those of its exchanges. -/
theorem map_call_exchanges : (p : Program α) → (state : σ) →
    (p.exchanges b state).map Exchange.call = p.calls b state
  | done _, _ => rfl
  | emit _ next, state => map_call_exchanges next state
  | call c next, _ => congrArg (c :: ·) (map_call_exchanges (next _) _)

/-- The exchanges of the second program come after those of the first. -/
theorem exchanges_bind (k : α → Program β) (p : Program α) (state : σ) :
    (p >>= k).exchanges b state =
      p.exchanges b state ++ (k (p.value b state)).exchanges b (p.final b state) := by
  rw [exchanges_eq_filterMap_steps, steps_bind, List.filterMap_append]
  rfl

/-- The exchanges of a run do not depend on the signals. -/
@[simp] theorem exchanges_silent : (p : Program α) → (state : σ) →
    p.silent.exchanges b state = p.exchanges b state
  | done _, _ => rfl
  | emit _ next, state => exchanges_silent next state
  | call c next, state =>
    congrArg (Exchange.mk c ((b c).run state).1 :: ·) (exchanges_silent (next _) _)

end Program

/-! ## Making sure of the collection -/

namespace Repository

variable {D α σ : Type} (r : Repository D)

/-- The exchanges with which the collection is made sure of: it is looked for, and created exactly
if the service says that it is not there. -/
inductive Prepares : List Exchange → Prop where
  /-- The service does not say so. -/
  | lookedFor {o : Except BackendError Bool} (h : o ≠ .ok false) :
      Prepares [⟨.collectionExists r.name, o⟩]
  /-- The service says so, and the collection is created or not. -/
  | created (o : Except BackendError Unit) :
      Prepares [⟨.collectionExists r.name, .ok false⟩,
        ⟨.createCollection r.schema.toDeclaration, o⟩]

/-- Their calls set the collection up. -/
theorem Prepares.isSetup {r : Repository D} {setup : List Exchange} (h : r.Prepares setup) :
    ∀ x ∈ setup, r.IsSetup x.call := by
  cases h with
  | lookedFor _ =>
      rw [List.forall_mem_singleton]
      exact .inl rfl
  | created _ =>
      rw [List.forall_mem_cons, List.forall_mem_singleton]
      exact ⟨.inl rfl, .inr rfl⟩

/-- These are the exchanges of making sure of the collection, with any service. -/
theorem prepares_ensure (b : Backend σ) (state : σ) : r.Prepares (r.ensure.exchanges b state) := by
  have hcreate : r.ensure.exchanges b state = r.create?.exchanges b state := by
    rw [ensure, Program.exchanges_bind]
    refine List.append_right_eq_self.mpr ?_
    rcases r.create?.value b state with e | _ <;> rfl
  rw [hcreate, create?, Program.exchanges_bind, Program.exchanges_perform, Program.value_perform]
  rcases ((b (.collectionExists r.name)).run state).1 with e | _ | _
  · exact .lookedFor nofun
  · change r.Prepares (_ :: (Program.perform .createCollection
      (.createCollection r.schema.toDeclaration) >>= _ :
        Program (Except BackendError Unit)).exchanges b _)
    rw [Program.exchanges_bind, Program.exchanges_perform, Program.value_perform]
    rcases ((b (.createCollection r.schema.toDeclaration)).run _).1 with e | _
    · exact .created _
    · exact .created _
  · exact .lookedFor nofun

/-- An operation that makes sure of the collection and then makes one call, without its signals. -/
theorem exists_prepares_of_silent_eq {p : Program α} {c : Call} {k : c.Outcome → α}
    (h : p.silent = r.ensure.silent >>= fun _ => .call c fun o => .done (k o)) (b : Backend σ)
    (state : σ) :
    ∃ setup o, r.Prepares setup ∧ p.exchanges b state = setup ++ [⟨c, o⟩] ∧
      p.value b state = k o := by
  refine ⟨_, ((b c).run (r.ensure.final b state)).1, r.prepares_ensure b state, ?_, ?_⟩
  · rw [← Program.exchanges_silent, h, Program.exchanges_bind, Program.exchanges_silent,
      Program.final_silent]
    rfl
  · rw [← Program.value_silent, h, Program.value_bind, Program.final_silent]
    rfl

end Repository
end CollectionSearch
