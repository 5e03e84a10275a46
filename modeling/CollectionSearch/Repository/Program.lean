import CollectionSearch.Repository.Call

/-!
# Programs

A program calls the search service, signals, and ends with a value. It is a tree: after a call it
goes on according to the outcome. What a program does is thus laid open, for every service that
might answer.

* `Program` : the programs, a monad.
* `Program.signal`, `Program.perform` : single steps; a call is always followed by its sample.
* `Program.timed` : a stretch of work whose duration is sampled when it ends.
* `Backend` : a service with a state; `Program.run` : a program with a service.
* `Step` : what a run leaves behind, in order.
-/

namespace CollectionSearch

/-- A computation that calls the search service and signals. -/
inductive Program (α : Type) : Type where
  /-- Ends with a value. -/
  | done (a : α)
  /-- Signals and goes on. -/
  | emit (s : Signal) (next : Program α)
  /-- Calls and goes on according to the outcome. -/
  | call (c : Call) (next : c.Outcome → Program α)

namespace Program

variable {α β γ : Type}

/-- Goes on with a second program where the first ends. -/
def bind : Program α → (α → Program β) → Program β
  | done a, k => k a
  | emit s next, k => emit s (next.bind k)
  | call c next, k => call c fun r => (next r).bind k

instance : Monad Program where
  pure := done
  bind := bind

@[simp] theorem pure_eq (a : α) : (pure a : Program α) = done a := rfl

@[simp] theorem done_bind (a : α) (k : α → Program β) : done a >>= k = k a := rfl

@[simp] theorem call_bind (c : Call) (next : c.Outcome → Program α) (k : α → Program β) :
    call c next >>= k = call c fun r => next r >>= k := rfl

theorem bind_done : (p : Program α) → p >>= done = p
  | done _ => rfl
  | emit s next => congrArg (emit s) (bind_done next)
  | call c next => congrArg (call c) (funext fun r => bind_done (next r))

theorem bind_assoc : (p : Program α) → (k : α → Program β) → (l : β → Program γ) →
    p >>= k >>= l = p >>= fun a => k a >>= l
  | done _, _, _ => rfl
  | emit s next, k, l => congrArg (emit s) (bind_assoc next k l)
  | call c next, k, l => congrArg (call c) (funext fun r => bind_assoc (next r) k l)

instance : LawfulMonad Program :=
  LawfulMonad.mk' Program bind_done (fun _ _ => rfl) bind_assoc

/-- Signals. -/
def signal (s : Signal) : Program Unit := emit s (done ())

/-- Signals in order. -/
def signals (l : List Signal) : Program Unit := l.forM signal

/-- Reports an event. -/
def event (e : Event) : Program Unit := signal (.event e)

/-- Takes a sample. -/
def sample (s : Sample) : Program Unit := signal (.sample s)

/-- Calls the search service and takes a sample of how that ended, for the operation that is given
with the call. -/
def perform (operation : Operation) (c : Call) : Program c.Outcome :=
  call c fun r => emit (.sample (.backendOperation operation (.of r))) (done r)

/-- Does a stretch of work and takes a sample of its duration, however it ends. -/
def timed (t : Timed) (p : Program α) : Program α := do
  let a ← p
  sample (.backendSeconds t)
  return a

end Program

/-! ## Running -/

/-- A search service with a state. -/
abbrev Backend (σ : Type) : Type := (c : Call) → StateM σ c.Outcome

/-- A step of a run. -/
inductive Step where
  | signal (s : Signal)
  | call (c : Call) (outcome : c.Outcome)

namespace Program

variable {α σ : Type}

/-- Runs a program with a service: the value, the steps and the state in the end. -/
def run (b : Backend σ) : Program α → σ → α × List Step × σ
  | done a, state => (a, [], state)
  | emit s next, state =>
    let (a, steps, state) := next.run b state
    (a, .signal s :: steps, state)
  | call c next, state =>
    let (r, state) := (b c).run state
    let (a, steps, state) := (next r).run b state
    (a, .call c r :: steps, state)

end Program

end CollectionSearch
