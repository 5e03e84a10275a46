import CollectionSearch.Repository.Collections

/-!
# Runs

The value, the calls and the final state of a run, by the way the program is put together. Signals
leave no trace in any of them.

* `Program.value`, `Program.calls`, `Program.final` : the parts of a run.
* `Program.MakesOnly` : whether a program makes only certain calls, whatever is answered.
* `Repository.IsSetup` : the calls that set a collection up.

**Main statements:** `value_bind`, `calls_bind` and `final_bind` run one program after the other,
`mem_calls_of_makesOnly` bounds the calls of every run, and `isSetup_of_mem_calls_ensure` those that
are made before an operation.
-/

namespace CollectionSearch

/-- The call of a step, if it is one. -/
def Step.call? : Step → Option Call
  | signal _ => none
  | call c _ => some c

namespace Program

variable {α β σ : Type} (b : Backend σ)

/-! ## The parts of a run -/

/-- The value that a run ends with. -/
def value (p : Program α) (state : σ) : α := (p.run b state).1

/-- The calls that a run makes, in order. -/
def calls (p : Program α) (state : σ) : List Call := (p.run b state).2.1.filterMap Step.call?

/-- The state that a run leaves behind. -/
def final (p : Program α) (state : σ) : σ := (p.run b state).2.2

@[simp] theorem value_done (a : α) (state : σ) : (done a).value b state = a := rfl

@[simp] theorem calls_done (a : α) (state : σ) : (done a).calls b state = [] := rfl

@[simp] theorem final_done (a : α) (state : σ) : (done a).final b state = state := rfl

@[simp] theorem value_emit (s : Signal) (p : Program α) (state : σ) :
    (emit s p).value b state = p.value b state := rfl

@[simp] theorem calls_emit (s : Signal) (p : Program α) (state : σ) :
    (emit s p).calls b state = p.calls b state := rfl

@[simp] theorem final_emit (s : Signal) (p : Program α) (state : σ) :
    (emit s p).final b state = p.final b state := rfl

@[simp] theorem value_call (c : Call) (next : c.Outcome → Program α) (state : σ) :
    (call c next).value b state =
      (next ((b c).run state).1).value b ((b c).run state).2 := rfl

@[simp] theorem calls_call (c : Call) (next : c.Outcome → Program α) (state : σ) :
    (call c next).calls b state =
      c :: (next ((b c).run state).1).calls b ((b c).run state).2 := rfl

@[simp] theorem final_call (c : Call) (next : c.Outcome → Program α) (state : σ) :
    (call c next).final b state =
      (next ((b c).run state).1).final b ((b c).run state).2 := rfl

/-! ## One program after the other -/

/-- The second program gets the value of the first. -/
theorem value_bind (k : α → Program β) : (p : Program α) → (state : σ) →
    (p >>= k).value b state = (k (p.value b state)).value b (p.final b state)
  | done _, _ => rfl
  | emit _ next, state => value_bind k next state
  | call _ next, _ => value_bind k (next _) _

/-- The second program begins in the state that the first leaves behind. -/
theorem final_bind (k : α → Program β) : (p : Program α) → (state : σ) →
    (p >>= k).final b state = (k (p.value b state)).final b (p.final b state)
  | done _, _ => rfl
  | emit _ next, state => final_bind k next state
  | call _ next, _ => final_bind k (next _) _

/-- The calls of the second program come after those of the first. -/
theorem calls_bind (k : α → Program β) : (p : Program α) → (state : σ) →
    (p >>= k).calls b state =
      p.calls b state ++ (k (p.value b state)).calls b (p.final b state)
  | done _, _ => rfl
  | emit _ next, state => calls_bind k next state
  | call c next, _ => congrArg (c :: ·) (calls_bind k (next _) _)

/-! ## Signals and single calls -/

@[simp] theorem calls_event (e : Event) (state : σ) : (event e).calls b state = [] := rfl

@[simp] theorem final_event (e : Event) (state : σ) : (event e).final b state = state := rfl

@[simp] theorem calls_signals (l : List Signal) (state : σ) : (signals l).calls b state = [] := by
  induction l generalizing state with
  | nil => rfl
  | cons s rest ih => exact ih state

@[simp] theorem final_signals (l : List Signal) (state : σ) :
    (signals l).final b state = state := by
  induction l generalizing state with
  | nil => rfl
  | cons s rest ih => exact ih state

@[simp] theorem value_perform (operation : Operation) (c : Call) (state : σ) :
    (perform operation c).value b state = ((b c).run state).1 := rfl

@[simp] theorem final_perform (operation : Operation) (c : Call) (state : σ) :
    (perform operation c).final b state = ((b c).run state).2 := rfl

@[simp] theorem value_timed (t : Timed) (p : Program α) (state : σ) :
    (timed t p).value b state = p.value b state := by
  rw [timed, value_bind]
  rfl

@[simp] theorem calls_timed (t : Timed) (p : Program α) (state : σ) :
    (timed t p).calls b state = p.calls b state := by
  rw [timed, calls_bind]
  exact List.append_nil _

/-! ## The calls of all runs -/

/-- Whether all calls of a program are of a kind, whatever is answered. -/
def MakesOnly (P : Call → Prop) : Program α → Prop
  | done _ => True
  | emit _ next => next.MakesOnly P
  | call c next => P c ∧ ∀ r, (next r).MakesOnly P

/-- Then all calls of every run are. -/
theorem mem_calls_of_makesOnly {P : Call → Prop} :
    (p : Program α) → p.MakesOnly P → ∀ state, ∀ c ∈ p.calls b state, P c
  | done _, _, _, _, hc => absurd hc List.not_mem_nil
  | emit _ next, h, state, c, hc => mem_calls_of_makesOnly next h state c hc
  | call first next, h, state, c, hc => by
      rcases List.mem_cons.mp hc with rfl | hc
      · exact h.1
      · exact mem_calls_of_makesOnly (next _) (h.2 _) _ c hc

/-- What such calls keep of the state is kept by every run. -/
theorem final_of_makesOnly {P : Call → Prop} {I : σ → Prop}
    (hI : ∀ c, P c → ∀ state, I state → I ((b c).run state).2) :
    (p : Program α) → p.MakesOnly P → ∀ state, I state → I (p.final b state)
  | done _, _, _, hstate => hstate
  | emit _ next, h, state, hstate => final_of_makesOnly hI next h state hstate
  | call c next, h, state, hstate =>
    final_of_makesOnly hI (next _) (h.2 _) _ (hI c h.1 state hstate)

/-- The kind may be widened. -/
theorem MakesOnly.mono {P Q : Call → Prop} (hPQ : ∀ c, P c → Q c) :
    {p : Program α} → p.MakesOnly P → p.MakesOnly Q
  | done _, _ => trivial
  | emit _ next, h => MakesOnly.mono (p := next) hPQ h
  | call _ next, h => ⟨hPQ _ h.1, fun r => MakesOnly.mono (p := next r) hPQ (h.2 r)⟩

/-- One program after the other makes only calls of a kind when both do. -/
theorem makesOnly_bind {P : Call → Prop} {k : α → Program β} (hk : ∀ a, (k a).MakesOnly P) :
    (p : Program α) → p.MakesOnly P → (p >>= k).MakesOnly P
  | done a, _ => hk a
  | emit _ next, h => makesOnly_bind hk next h
  | call _ next, h => ⟨h.1, fun r => makesOnly_bind hk (next r) (h.2 r)⟩

end Program

/-! ## Actions -/

/-- A program at the beginning of an action is run first. -/
@[simp] theorem Action.run_lift_bind {α β : Type} (p : Program α) (k : α → Action β) :
    ((liftM p : Action α) >>= k).run = p >>= fun a => (k a).run := ExceptT.run_bind_lift p k

/-- What is there already is used at once. -/
theorem Action.run_ofExcept_bind {ε α β : Type} (wrap : ε → RepositoryError) (x : Except ε α)
    (k : α → Action β) :
    (ofExcept wrap x >>= k).run =
      match x with
      | .ok a => (k a).run
      | .error e => .done (.error (wrap e)) := by
  cases x <;> rfl

/-- A call that fails ends the action. -/
theorem Action.run_perform_bind {β : Type} (operation : Operation) (c : Call)
    (k : c.Reply → Action β) :
    (perform operation c >>= k).run = Program.perform operation c >>= fun o =>
      match o with
      | .ok x => (k x).run
      | .error e => .done (.error (.backend e)) := by
  refine congrArg (Program.call c) (funext fun o => congrArg (Program.emit _) ?_)
  cases o <;> rfl

/-- A timed call that fails ends the action once its time was taken. -/
theorem Action.run_timed_perform_bind {β : Type} (t : Timed) (operation : Operation) (c : Call)
    (k : c.Reply → Action β) :
    (timed t (perform operation c) >>= k).run = Program.perform operation c >>= fun o =>
      .emit (.sample (.backendSeconds t))
        (match o with
        | .ok x => (k x).run
        | .error e => .done (.error (.backend e))) := by
  refine congrArg (Program.call c) (funext fun o => ?_)
  refine congrArg (Program.emit _) (congrArg (Program.emit _) ?_)
  cases o <;> rfl

/-- Reading what was answered makes no calls. -/
theorem Action.run_decode_some {α : Type} (d : Decoder Json α) (j : Json) :
    (do return some (← Action.decode d j) : Action (Option α)).run =
      .done (((d j).map some).mapError .undecodable) := by
  rw [Action.decode, Action.ofExcept]
  cases d j <;> rfl

/-! ## The calls before an operation -/

namespace Repository

variable {D σ : Type} (r : Repository D)

/-- Whether a call looks for the collection or creates it. -/
def IsSetup (c : Call) : Prop :=
  c = .collectionExists r.name ∨ c = .createCollection r.schema.toDeclaration

/-- Creating the collection makes only such calls. -/
theorem makesOnly_create? : r.create?.MakesOnly r.IsSetup := by
  refine ⟨.inl rfl, ?_⟩
  rintro (e | _ | _)
  · exact trivial
  · refine ⟨.inr rfl, ?_⟩
    rintro (e | _) <;> exact trivial
  · exact trivial

/-- Making sure of the collection makes only such calls. -/
theorem makesOnly_ensure : r.ensure.MakesOnly r.IsSetup := by
  refine Program.makesOnly_bind ?_ r.create? r.makesOnly_create?
  rintro (e | _) <;> exact trivial

/-- **Making sure of the collection looks for it and creates it at most**, in every run. -/
theorem isSetup_of_mem_calls_ensure (b : Backend σ) (state : σ) :
    ∀ c ∈ r.ensure.calls b state, r.IsSetup c :=
  Program.mem_calls_of_makesOnly b r.ensure r.makesOnly_ensure state

end Repository

end CollectionSearch
