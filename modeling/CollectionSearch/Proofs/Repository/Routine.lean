import CollectionSearch.Proofs.Repository.Guard

/-!
# Routine work

Most of what operations do is done by all of them alike: they report events, measure durations, and
make calls that are not about the collection as a whole. A property of programs that such work has
is looked for only where something else happens: where the collection is made sure of or dropped,
and where the hits of a search are counted.

* `Signal.isRoutine` : the signals that all operations give alike.
* `Program.Routine` : whether routine work has a property.
* `Repository.ensures` : the requests for which the collection is made sure of.
* `Repository.EnsuresFirst` : whether a program makes sure of the collection, once and at the
  beginning, and a property holds of what it does then.

**Main statements:** `ensuresFirst_serve` and `routine_serve` go through the requests, those for
which the collection is made sure of and the others.
-/

namespace CollectionSearch

/-! ## Signals and calls -/

/-- Whether a sample says nothing of calls, of the collection as a whole or of hits. -/
def Sample.isRoutine : Sample → Bool
  | backendOperation _ _ | collectionOperation _ _ | searchResults _ => false
  | _ => true

/-- Whether a signal is an event or a routine sample. -/
def Signal.isRoutine : Signal → Bool
  | event _ => true
  | sample s => s.isRoutine

/-- Whether a call is about a collection as a whole. -/
def Call.isAboutCollection : Call → Bool
  | collectionExists _ | createCollection _ | deleteCollection _ => true
  | _ => false

/-- Writing a filter as an expression gives routine signals. -/
theorem Filter.isRoutine_of_mem_compileSignalsFor (f : Filter) (s : CollectionSchema) :
    ∀ t ∈ f.compileSignalsFor s, t.isRoutine = true := by
  intro t ht
  rw [compileSignalsFor, compileSignals] at ht
  simp only [List.mem_append, List.mem_map, List.mem_cons, List.not_mem_nil, or_false] at ht
  rcases ht with ⟨field, -, rfl⟩ | ⟨e, -, rfl⟩ | rfl | rfl <;> rfl

/-- So does putting the parameters of a search together. -/
theorem SearchCriteria.isRoutine_of_mem_assemblySignals (c : SearchCriteria)
    (s : CollectionSchema) : ∀ t ∈ c.assemblySignals s, t.isRoutine = true := by
  intro t ht
  rw [assemblySignals, List.mem_append] at ht
  rcases ht with ht | ht
  · obtain ⟨query, -, rfl⟩ := List.mem_map.mp ht
    rfl
  · split at ht
    · exact Filter.isRoutine_of_mem_compileSignalsFor _ s t ht
    · cases ht

/-! ## Properties of routine work -/

namespace Program

/-- Whether a property is kept when programs are put together, and holds of routine signals and of
calls that are not about the collection as a whole. -/
structure Routine (P : (α : Type) → Program α → Prop) : Prop extends Closed P where
  /-- It holds of routine signals. -/
  signal : ∀ {s : Signal}, s.isRoutine = true → P Unit (signal s)
  /-- It holds of calls with the samples of their operations. -/
  perform : ∀ {operation : Operation} {c : Call}, operation = c.operation →
    c.isAboutCollection = false → P c.Outcome (perform operation c)

namespace Routine

variable {P : (α : Type) → Program α → Prop} (h : Routine P) {α : Type}

include h

theorem timed (t : Timed) {p : Program α} (hp : P α p) : P α (timed t p) :=
  h.bind hp fun a => h.bind (h.signal rfl) fun _ => h.done a

theorem action_timed (t : Timed) {a : Action α} (ha : P _ a.run) : P _ (Action.timed t a).run :=
  h.timed t ha

theorem action_perform {operation : Operation} {c : Call} (hop : operation = c.operation)
    (hc : c.isAboutCollection = false) : P _ (Action.perform operation c).run :=
  h.bind (h.perform hop hc) fun _ => h.done _

end Routine

end Program

/-! ## Programs that make sure of the collection first -/

/-- Whether a request is a search. -/
def Request.isSearch {D : Type} : Request D → Bool
  | search _ | vectorSearch _ => true
  | _ => false

namespace Repository

variable {D : Type} (r : Repository D) {P : (α : Type) → Program α → Prop} {α β : Type}

/-- Whether the collection is made sure of for a request. A search whose criteria are refused does
not get there, and neither does a deletion by a filter that says nothing. -/
def ensures : Request D → Bool
  | .ensure | .importDocuments _ | .get _ | .update _ _ | .delete _ => true
  | .search c => (c.check r.schema).isOk
  | .deleteWhere f => !f.expression.isEmpty
  | .dropCollection | .vectorSearch _ => false

/-- Whether a program makes sure of the collection, after routine signals at most, and a property
holds of what it does then. -/
def EnsuresFirst (P : (α : Type) → Program α → Prop) (p : Program α) : Prop :=
  ∃ (l : List Signal) (q : Program α), (∀ s ∈ l, s.isRoutine = true) ∧ P α q ∧
    p = Program.signals l >>= fun _ => r.ensure >>= fun _ => q

variable {r}

/-- An action that makes sure of the collection at its beginning. -/
theorem ensuresFirst_action {a : Action α} (ha : P _ a.run) :
    r.EnsuresFirst P ((liftM r.ensure : Action Bool) >>= fun _ => a).run := by
  rw [Action.run_lift_bind]
  exact ⟨[], a.run, nofun, ha, rfl⟩

/-- What comes after such a program comes after what it does then. -/
theorem EnsuresFirst.bind (h : Program.Closed P) {p : Program α} {k : α → Program β}
    (hp : r.EnsuresFirst P p) (hk : ∀ a, P β (k a)) : r.EnsuresFirst P (p >>= k) := by
  obtain ⟨l, q, hl, hq, rfl⟩ := hp
  refine ⟨l, q >>= k, hl, h.bind hq hk, ?_⟩
  rw [bind_assoc]
  exact bind_congr fun _ => bind_assoc _ _ _

theorem EnsuresFirst.action_bind (h : Program.Closed P) {a : Action α} {k : α → Action β}
    (ha : r.EnsuresFirst P a.run) (hk : ∀ x, P _ (k x).run) :
    r.EnsuresFirst P (a >>= k).run := by
  rw [ExceptT.run_bind]
  refine ha.bind h ?_
  rintro (e | x)
  · exact h.done _
  · exact hk x

/-- A property of routine work and of making sure of the collection holds of the whole program. -/
theorem EnsuresFirst.holds (h : Program.Routine P) (hensure : P Bool r.ensure) {p : Program α}
    (hp : r.EnsuresFirst P p) : P α p := by
  obtain ⟨l, q, hl, hq, rfl⟩ := hp
  exact h.bind (h.signals fun s hs => h.signal (hl s hs)) fun _ => h.bind hensure fun _ => hq

/-! ## The operations -/

section operations

variable (r) (h : Program.Routine P)

include h

theorem ensuresFirst_importDocuments (documents : List D) :
    r.EnsuresFirst P (r.importDocuments documents).run := by
  refine ensuresFirst_action ?_
  refine h.action_bind (h.mapM (fun _ => h.ofExcept _ _) documents) fun bodies => ?_
  refine h.action_timed _ (h.action_bind (h.action_perform rfl rfl) fun results => ?_)
  exact h.lift_bind (h.signal rfl) fun _ => h.done _

theorem ensuresFirst_get (identifier : String) :
    r.EnsuresFirst P (r.get identifier).run := by
  refine ensuresFirst_action (h.lift_bind (h.perform rfl rfl) ?_)
  rintro ((_ | e | e | e) | body)
  case ok => exact h.action_bind (h.ofExcept _ _) fun _ => h.done _
  case error.notFound => exact h.done _
  all_goals exact h.lift_bind (h.signal rfl) fun _ => h.done _

theorem ensuresFirst_delete (identifier : String) :
    r.EnsuresFirst P (r.delete identifier).run := by
  refine (r.ensuresFirst_get h identifier).action_bind h.toClosed ?_
  rintro (_ | found)
  · exact h.lift_bind (h.signal rfl) fun _ => h.done _
  · refine h.action_timed _ (h.action_bind (h.action_perform rfl rfl) fun body => ?_)
    exact h.action_bind (h.ofExcept _ _) fun _ => h.done _

theorem routine_write (identifier : String) (present : Bool) (body : Json) :
    P _ (r.write identifier present body).run := by
  cases present
  · exact h.lift_bind (h.signal rfl) fun _ =>
      h.action_perform (c := .create r.name body) rfl rfl
  · exact h.action_perform (c := .update r.name identifier body) rfl rfl

theorem ensuresFirst_update (identifier : String) (document : D) :
    r.EnsuresFirst P (r.update identifier document).run := by
  refine (r.ensuresFirst_get h identifier).action_bind h.toClosed fun existing => ?_
  refine h.action_bind (h.ofExcept _ _) fun body => h.action_timed _ ?_
  exact h.action_bind (r.routine_write h identifier _ body) fun _ => h.ofExcept _ _

theorem ensuresFirst_deleteWhere {f : Filter} (hf : f.expression.isEmpty = false) :
    r.EnsuresFirst P (r.deleteWhere f).run := by
  rw [deleteWhere, Action.run_lift_bind, if_neg (by rw [hf]; exact Bool.false_ne_true),
    Action.run_lift_bind]
  refine ⟨_, _, f.isRoutine_of_mem_compileSignalsFor r.schema, ?_, rfl⟩
  refine h.action_timed _ (h.action_bind (h.action_perform rfl rfl) fun count => ?_)
  exact h.lift_bind (h.signal rfl) fun _ => h.done _

theorem routine_deleteWhere {f : Filter} (hf : f.expression.isEmpty = true) :
    P _ (r.deleteWhere f).run := by
  refine h.lift_bind (h.signals fun s hs => h.signal ?_) fun _ => ?_
  · exact f.isRoutine_of_mem_compileSignalsFor r.schema s hs
  · rw [if_pos hf]
    exact h.lift_bind (h.signal rfl) fun _ => h.done _

variable (hcount : ∀ (kind : SearchKind) (response : SearchResponse D),
  P Unit (sampleSearch kind response))

include hcount

theorem ensuresFirst_search {c : SearchCriteria} (hc : c.check r.schema = .ok ()) :
    r.EnsuresFirst P (r.search c).run := by
  rw [search, Action.run_ofExcept_bind, hc]
  refine ensuresFirst_action ?_
  refine h.lift_bind (h.signals fun s hs => h.signal ?_) fun _ => ?_
  · exact c.isRoutine_of_mem_assemblySignals r.schema s hs
  · refine h.lift_bind (h.signal rfl) fun _ => ?_
    refine h.action_bind (h.action_timed _ (h.action_perform rfl rfl)) fun answer => ?_
    refine h.action_bind (h.ofExcept _ _) fun response => ?_
    exact h.lift_bind (hcount _ response) fun _ => h.done _

theorem routine_vectorSearch (s : VectorSearch) : P _ (r.vectorSearch s).run := by
  refine h.action_bind (h.ofExcept _ _) fun _ => ?_
  refine h.lift_bind (h.signal rfl) fun _ => ?_
  refine h.action_bind (h.action_timed _ (h.action_perform rfl rfl)) fun answers => ?_
  refine h.action_bind (h.ofExcept _ _) fun answer => ?_
  refine h.action_bind (h.ofExcept _ _) fun response => ?_
  exact h.lift_bind (hcount _ response) fun _ => h.done _

end operations

/-! ## Requests -/

section requests

variable (r) (h : Program.Routine P) {request : Request D}
  (hcount : request.isSearch = true → ∀ (kind : SearchKind) (response : SearchResponse D),
    P Unit (sampleSearch kind response))

include h hcount

/-- For such a request the collection is made sure of first. -/
theorem ensuresFirst_serve (hensures : r.ensures request = true) :
    r.EnsuresFirst P (r.serve request) := by
  have hc := h.toClosed
  have hdone {α : Type} (a : α) : P Unit (pure ()) := h.done ()
  cases request with
  | ensure => exact ⟨[], pure (), nofun, h.done (), rfl⟩
  | importDocuments documents => exact (r.ensuresFirst_importDocuments h documents).bind hc hdone
  | search c =>
      have hcheck : c.check r.schema = .ok () := by
        rw [ensures] at hensures
        rcases hcheck : c.check r.schema with e | x
        · rw [hcheck] at hensures
          cases hensures
        · rfl
      exact (r.ensuresFirst_search h (hcount rfl) hcheck).bind hc hdone
  | get identifier => exact (r.ensuresFirst_get h identifier).bind hc hdone
  | update identifier document => exact (r.ensuresFirst_update h identifier document).bind hc hdone
  | delete identifier => exact (r.ensuresFirst_delete h identifier).bind hc hdone
  | deleteWhere f =>
      rw [ensures, Bool.not_eq_true'] at hensures
      exact (r.ensuresFirst_deleteWhere h hensures).bind hc hdone
  | dropCollection => cases hensures
  | vectorSearch s => cases hensures

/-- All that is done for any other request is routine work, unless the collection is dropped. -/
theorem routine_serve_of_not_ensures (hdrop : P _ r.dropCollection.run)
    (hensures : r.ensures request = false) : P Unit (r.serve request) := by
  have hdone {α : Type} (a : α) : P Unit (pure ()) := h.done ()
  cases request with
  | dropCollection => exact h.bind hdrop hdone
  | vectorSearch s => exact h.bind (r.routine_vectorSearch h (hcount rfl) s) hdone
  | search c =>
      refine h.bind ?_ hdone
      rw [ensures] at hensures
      rw [search, Action.run_ofExcept_bind]
      rcases hcheck : c.check r.schema with e | x
      · exact h.done _
      · rw [hcheck] at hensures
        cases hensures
  | deleteWhere f =>
      rw [ensures, Bool.not_eq_false'] at hensures
      exact h.bind (r.routine_deleteWhere h hensures) hdone
  | _ => cases hensures

/-- **A property of routine work holds of what is done for any request**, if it holds of making sure
of the collection, of dropping it, and of counting hits. -/
theorem routine_serve (hensure : P _ r.ensure) (hdrop : P _ r.dropCollection.run) :
    P Unit (r.serve request) := by
  rcases hensures : r.ensures request with _ | _
  · exact r.routine_serve_of_not_ensures h hcount hdrop hensures
  · exact (r.ensuresFirst_serve h hcount hensures).holds h hensure

end requests

/-! ## Making sure of the collection once -/

/-- Routine work makes no calls about the collection as a whole. -/
theorem routine_makesOnly {P : Call → Prop} (hP : ∀ c : Call, c.isAboutCollection = false → P c) :
    Program.Routine fun _ p => p.MakesOnly P where
  done _ := trivial
  bind hp hk := Program.makesOnly_bind hk _ hp
  signal _ := trivial
  perform {_ c} _ hc := ⟨hP c hc, fun _ => trivial⟩

/-- **The collection is made sure of once for some requests and not at all for the others.** In the
former case no call about the collection as a whole is made after that, and in the latter none that
creates it. -/
theorem ensures_once (request : Request D) :
    if r.ensures request then
      r.EnsuresFirst (fun _ q => q.MakesOnly fun c => c.isAboutCollection = false) (r.serve request)
    else (r.serve request).MakesOnly fun c => c.operation ≠ .createCollection := by
  rcases hensures : r.ensures request with _ | _
  · have hother : ∀ c : Call, c.isAboutCollection = false → c.operation ≠ .createCollection := by
      intro c hc
      cases c <;> simp_all [Call.isAboutCollection, Call.operation]
    have h := routine_makesOnly hother
    refine r.routine_serve_of_not_ensures h (fun _ _ _ => trivial) ?_ hensures
    refine ⟨nofun, ?_⟩
    rintro (e | _ | _)
    · trivial
    · trivial
    · exact ⟨nofun, fun o => by cases o <;> trivial⟩
  · exact r.ensuresFirst_serve (routine_makesOnly fun _ hc => hc) (fun _ _ _ => trivial) hensures

end Repository

end CollectionSearch
