import CollectionSearch.Proofs.Repository.Run

/-!
# Properties that programs have by their parts

Much of what is said of programs holds of a whole program when it holds of its parts, with single
calls as the only parts that matter. Operations are put together in a few ways, and what is said of
these ways is the same for every such property.

* `Program.Closed` : whether a property is kept when programs are put together.
* `Program.Compositional` : whether it does not depend on signals either.

**Main statements:** `Closed.lift_bind` and `Closed.action_bind` for one part after the other and
`Closed.mapM` and `Closed.forM` for lists; of properties that do not depend on signals,
`Compositional.timed` for measured stretches and `Compositional.action_perform` for single calls.
-/

namespace CollectionSearch.Program

/-- Whether a property holds of programs that have ended, and holds of one program after the other
when it holds of both. -/
structure Closed (P : (α : Type) → Program α → Prop) : Prop where
  /-- It holds of programs that have ended. -/
  done : ∀ {α : Type} (a : α), P α (done a)
  /-- One program may follow the other. -/
  bind : ∀ {α β : Type} {p : Program α} {k : α → Program β}, P α p → (∀ a, P β (k a)) →
    P β (p >>= k)

/-- Whether a property holds of programs that have ended, does not depend on signals, and holds of
one program after the other when it holds of both. -/
structure Compositional (P : (α : Type) → Program α → Prop) : Prop where
  /-- It holds of programs that have ended. -/
  done : ∀ {α : Type} (a : α), P α (done a)
  /-- Signals may be added. -/
  emit : ∀ {α : Type} (s : Signal) {p : Program α}, P α p → P α (emit s p)
  /-- One program may follow the other. -/
  bind : ∀ {α β : Type} {p : Program α} {k : α → Program β}, P α p → (∀ a, P β (k a)) →
    P β (p >>= k)

namespace Closed

variable {P : (α : Type) → Program α → Prop} (h : Closed P) {α β : Type}

include h

/-! ## Parts in a row -/

theorem signals {l : List Signal} (hl : ∀ s ∈ l, P Unit (signal s)) : P Unit (signals l) := by
  induction l with
  | nil => exact h.done ()
  | cons s rest ih =>
      exact h.bind (hl s List.mem_cons_self) fun _ =>
        ih fun t ht => hl t (List.mem_cons_of_mem s ht)

theorem lift_bind {p : Program α} {k : α → Action β} (hp : P α p) (hk : ∀ a, P _ (k a).run) :
    P _ ((liftM p : Action α) >>= k).run := by
  rw [Action.run_lift_bind]
  exact h.bind hp hk

/-- An action that fails has ended. -/
theorem action_bind {a : Action α} {k : α → Action β} (ha : P _ a.run) (hk : ∀ x, P _ (k x).run) :
    P _ (a >>= k).run := by
  rw [ExceptT.run_bind]
  refine h.bind ha ?_
  rintro (e | x)
  · exact h.done _
  · exact hk x

/-- What is there already has ended. -/
theorem ofExcept {ε : Type} (wrap : ε → RepositoryError) (x : Except ε α) :
    P _ (Action.ofExcept wrap x).run := h.done _

theorem mapM {f : α → Action β} (hf : ∀ a, P _ (f a).run) (l : List α) : P _ (l.mapM f).run := by
  induction l with
  | nil => exact h.done _
  | cons a rest ih =>
      rw [List.mapM_cons]
      exact h.action_bind (hf a) fun _ => h.action_bind ih fun _ => h.done _

theorem forM {f : α → Program Unit} (hf : ∀ a, P Unit (f a)) (l : List α) :
    P Unit (l.forM f) := by
  induction l with
  | nil => exact h.done ()
  | cons a rest ih => exact h.bind (hf a) fun _ => ih

end Closed

namespace Compositional

variable {P : (α : Type) → Program α → Prop} (h : Compositional P) {α β : Type}

include h

theorem closed : Closed P := ⟨h.done, h.bind⟩

/-! ## Programs -/

theorem signal (s : Signal) : P Unit (signal s) := h.emit s (h.done ())

theorem signals (l : List Signal) : P Unit (signals l) := h.closed.signals fun s _ => h.signal s

/-- A measured stretch ends with a sample. -/
theorem timed (t : Timed) {p : Program α} (hp : P α p) : P α (timed t p) :=
  h.bind hp fun a => h.emit _ (h.done a)

/-- A call is followed by its sample. -/
theorem perform {operation : Operation} {c : Call} (hc : P c.Outcome (call c Program.done)) :
    P c.Outcome (perform operation c) := h.bind hc fun o => h.emit _ (h.done o)

/-! ## Actions -/

theorem lift_bind {p : Program α} {k : α → Action β} (hp : P α p) (hk : ∀ a, P _ (k a).run) :
    P _ ((liftM p : Action α) >>= k).run := h.closed.lift_bind hp hk

theorem action_bind {a : Action α} {k : α → Action β} (ha : P _ a.run) (hk : ∀ x, P _ (k x).run) :
    P _ (a >>= k).run := h.closed.action_bind ha hk

theorem action_timed (t : Timed) {a : Action α} (ha : P _ a.run) : P _ (Action.timed t a).run :=
  h.timed t ha

theorem action_perform {operation : Operation} {c : Call}
    (hc : P c.Outcome (call c Program.done)) : P _ (Action.perform operation c).run :=
  h.bind (h.perform hc) fun _ => h.done _

theorem ofExcept {ε : Type} (wrap : ε → RepositoryError) (x : Except ε α) :
    P _ (Action.ofExcept wrap x).run := h.closed.ofExcept wrap x

theorem mapM {f : α → Action β} (hf : ∀ a, P _ (f a).run) (l : List α) : P _ (l.mapM f).run :=
  h.closed.mapM hf l

end Compositional

end CollectionSearch.Program
