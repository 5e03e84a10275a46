import CollectionSearch.Proofs.Repository.Routine
import CollectionSearch.Proofs.Repository.Searches
import Mathlib.Data.List.Basic

/-!
# Metrics account for what was done

Each call to the service is followed by a sample of how it ended. Further samples say how making
sure of the collection ended, that the collection was created or dropped, and how many hits a search
has returned. Which samples there are is told by the exchanges with the service and by what the
operations return.

* `Exchange.operation`, `Exchange.status` : the labels of an exchange, in words.
* `Exchange.samples` : the samples that an exchange calls for.
* `Program.Tallies` : whether the samples of a kind that a program takes are those that its
  exchanges call for.
* `Repository.Reports` : whether a program counts the hits of what it ends with.
* `Program.metrics` : the metrics of a run, as an exporter sees them.
* `Repository.starts` : the requests of a sequence, each with the state in which it begins.

**Main statements:** `tallies_serve` is about the samples of one request that its exchanges call
for, `filter_isChange_ensure_serve` and `filter_isHits_serve` about the others, and
`metrics_account_for_requests` about the metrics of any sequence of requests.
-/

namespace CollectionSearch

/-! ## Kinds of samples -/

namespace Sample

/-- Whether a sample says how a call ended. -/
def isCall : Sample → Bool
  | backendOperation _ _ => true
  | _ => false

/-- Whether a sample says how a certain change of the collection ended. -/
def isChange (change : CollectionChange) : Sample → Bool
  | collectionOperation c _ => c = change
  | _ => false

/-- Whether a sample counts the hits of a search. -/
def isHits : Sample → Bool
  | searchResults _ => true
  | _ => false

theorem isCall_of_isRoutine : ∀ s : Sample, s.isRoutine = true → s.isCall = false := by
  rintro (_ | _ | _ | _ | _ | _ | _) h <;> first | rfl | cases h

theorem isHits_of_isRoutine : ∀ s : Sample, s.isRoutine = true → s.isHits = false := by
  rintro (_ | _ | _ | _ | _ | _ | _) h <;> first | rfl | cases h

theorem isChange_of_isRoutine (change : CollectionChange) :
    ∀ s : Sample, s.isRoutine = true → s.isChange change = false := by
  rintro (_ | _ | _ | _ | _ | _ | _) h <;> first | rfl | cases h

/-- Exactly the samples of calls go under that name. -/
theorem isCall_eq (s : Sample) :
    decide (s.metric.name = "typesense_criteria_backend_operations_total") = s.isCall := by
  cases s <;> simp [metric, isCall]

/-- Exactly the samples of a change go under that name with that label. -/
theorem isChange_eq (change : CollectionChange) (s : Sample) :
    decide (s.metric.name = "typesense_criteria_collection_operations_total" ∧
      ("operation", change.label) ∈ s.metric.labels) = s.isChange change := by
  rcases s with _ | _ | _ | _ | ⟨c, success⟩ | _ | _
  case collectionOperation =>
      cases c <;> cases change <;> simp [metric, isChange, CollectionChange.label]
  all_goals simp [metric, isChange]

/-- Exactly the counts of hits go under that name. -/
theorem isHits_eq (s : Sample) :
    decide (s.metric.name = "typesense_criteria_search_results") = s.isHits := by
  cases s <;> simp [metric, isHits]

end Sample

/-! ## Exchanges -/

namespace Exchange

/-- What the call was for. -/
def operation : Exchange → String
  | ⟨.collectionExists _, _⟩ => "collection_exists"
  | ⟨.createCollection _, _⟩ => "create_collection"
  | ⟨.deleteCollection _, _⟩ => "delete_collection"
  | ⟨.search _ _, _⟩ => "search"
  | ⟨.multiSearch _, _⟩ => "multi_search"
  | ⟨.importDocuments _ _ _, _⟩ => "import"
  | ⟨.retrieve _ _, _⟩ => "retrieve"
  | ⟨.create _ _, _⟩ => "create"
  | ⟨.update _ _ _, _⟩ => "update"
  | ⟨.delete _ _, _⟩ => "delete"
  | ⟨.deleteByFilter _ _, _⟩ => "delete_by_filter"

/-- How the call ended. -/
def status : Exchange → String
  | ⟨_, .ok _⟩ => "success"
  | ⟨_, .error .notFound⟩ => "not_found"
  | ⟨_, .error _⟩ => "error"

/-- Whether a collection was created. -/
def hasCreated : Exchange → Bool
  | ⟨.createCollection _, .ok _⟩ => true
  | _ => false

/-- Whether a collection was deleted. -/
def hasDropped : Exchange → Bool
  | ⟨.deleteCollection _, .ok _⟩ => true
  | _ => false

/-- The samples that an exchange calls for: one for the call, and one more if it has created or
deleted a collection. -/
def samples (x : Exchange) : List Sample :=
  .backendOperation x.call.operation (.of x.outcome) ::
    ((if x.hasCreated then [.collectionOperation .create true] else []) ++
      if x.hasDropped then [.collectionOperation .drop true] else [])

variable (x : Exchange)

theorem label_operation : x.call.operation.label = x.operation := by
  rcases x with ⟨_ | _ | _ | _ | _ | _ | _ | _ | _ | _ | _, o⟩ <;> rfl

theorem label_of_outcome : (CallStatus.of x.outcome).label = x.status := by
  rcases x with ⟨c, (_ | e | e | e) | a⟩ <;> rfl

/-- Other calls call for one sample only. -/
theorem samples_of_not_isAboutCollection {c : Call} (hc : c.isAboutCollection = false)
    (o : c.Outcome) : samples ⟨c, o⟩ = [.backendOperation c.operation (.of o)] := by
  cases c <;> first | rfl | cases hc

/-- Each exchange calls for one sample of how its call ended. -/
theorem filter_isCall_samples :
    x.samples.filter Sample.isCall = [.backendOperation x.call.operation (.of x.outcome)] := by
  rw [samples]
  cases x.hasCreated <;> cases x.hasDropped <;> rfl

/-- The creation of a collection calls for a sample of that. -/
theorem filter_isChange_create_samples :
    x.samples.filter (Sample.isChange .create) =
      if x.hasCreated then [.collectionOperation .create true] else [] := by
  rw [samples]
  cases x.hasCreated <;> cases x.hasDropped <;> rfl

/-- So does its deletion. -/
theorem filter_isChange_drop_samples :
    x.samples.filter (Sample.isChange .drop) =
      if x.hasDropped then [.collectionOperation .drop true] else [] := by
  rw [samples]
  cases x.hasCreated <;> cases x.hasDropped <;> rfl

/-- No exchange calls for a sample of how making sure of the collection ended. -/
theorem filter_isChange_ensure_samples : x.samples.filter (Sample.isChange .ensure) = [] := by
  rw [samples]
  cases x.hasCreated <;> cases x.hasDropped <;> rfl

/-- Nor for a count of hits. -/
theorem filter_isHits_samples : x.samples.filter Sample.isHits = [] := by
  rw [samples]
  cases x.hasCreated <;> cases x.hasDropped <;> rfl

end Exchange

/-! ## Samples by exchanges -/

namespace Program

variable {α : Type} {kind : Sample → Bool}

/-- Whether the samples of a kind that a program takes are those that its exchanges call for, in all
runs. -/
def Tallies (kind : Sample → Bool) (p : Program α) : Prop :=
  ∀ (σ : Type) (b : Backend σ) (state : σ),
    (p.samples b state).filter kind = ((p.exchanges b state).flatMap Exchange.samples).filter kind

theorem closed_tallies (kind : Sample → Bool) : Closed fun _ p => p.Tallies kind where
  done _ _ _ _ := rfl
  bind hp hk _ b state := by
    rw [samples_bind, List.filter_append, exchanges_bind, List.flatMap_append, List.filter_append,
      hp, hk]

/-- Samples of other kinds do not count. -/
theorem tallies_sample {s : Sample} (hs : kind s = false) : (sample s).Tallies kind := by
  intro σ b state
  exact List.filter_cons_of_neg (by rw [hs]; exact Bool.false_ne_true)

/-- A call that calls for no further sample, with that of its operation. -/
theorem tallies_perform {operation : Operation} {c : Call} (hop : operation = c.operation)
    (h : ∀ o, Exchange.samples ⟨c, o⟩ = [.backendOperation c.operation (.of o)]) :
    (perform operation c).Tallies kind := by
  subst hop
  intro σ b state
  rw [samples_perform, exchanges_perform, List.flatMap_singleton, h]

/-- Routine work has the samples that its exchanges call for. -/
theorem routine_tallies (hroutine : ∀ s : Sample, s.isRoutine = true → kind s = false) :
    Routine fun _ p => p.Tallies kind where
  toClosed := closed_tallies kind
  signal {s} hs := by
    cases s with
    | event e => exact fun _ _ _ => rfl
    | sample s => exact tallies_sample (hroutine s hs)
  perform hop hc := tallies_perform hop (Exchange.samples_of_not_isAboutCollection hc)

/-- Of a kind that no exchange calls for there are no samples. -/
theorem filter_samples_eq_nil {p : Program α} (hp : p.Tallies kind)
    (hnone : ∀ x : Exchange, x.samples.filter kind = []) {σ : Type} (b : Backend σ) (state : σ) :
    (p.samples b state).filter kind = [] := by
  rw [hp, List.filter_flatMap, List.flatMap_eq_nil_iff]
  exact fun x _ => hnone x

end Program

namespace Repository

variable {D : Type} (r : Repository D) {kind : Sample → Bool}

section tallies

variable (hroutine : ∀ s : Sample, s.isRoutine = true → kind s = false)

include hroutine

/-- Creating the collection is accounted for when it has succeeded. -/
theorem tallies_create? : r.create?.Tallies kind := by
  have h := Program.routine_tallies hroutine
  refine h.bind (Program.tallies_perform rfl fun _ => rfl) ?_
  rintro (e | _ | _)
  · exact h.done _
  · refine h.bind (h.signal rfl) fun _ => ?_
    intro σ b state
    rw [Program.samples_bind, Program.exchanges_bind, Program.samples_perform,
      Program.exchanges_perform, Program.value_perform]
    rcases ((b (.createCollection r.schema.toDeclaration)).run state).1 with e | _ <;> rfl
  · exact h.done _

/-- So is dropping it. -/
theorem tallies_dropCollection : r.dropCollection.run.Tallies kind := by
  have h := Program.routine_tallies hroutine
  rw [dropCollection, Action.run_perform_bind]
  refine h.bind (Program.tallies_perform rfl fun _ => rfl) ?_
  rintro (e | _ | _)
  · exact h.done _
  · exact h.lift_bind (h.signal rfl) fun _ => h.done _
  · dsimp only
    intro σ b state
    rw [if_pos rfl, Action.run_perform_bind, Program.samples_bind, Program.exchanges_bind,
      Program.samples_perform, Program.exchanges_perform, Program.value_perform]
    rcases ((b (.deleteCollection r.name)).run state).1 with e | _ <;> rfl

/-- Making sure of the collection takes one more sample. -/
theorem tallies_ensure (hkind : ∀ success, kind (.collectionOperation .ensure success) = false) :
    r.ensure.Tallies kind := by
  have h := Program.routine_tallies hroutine
  refine h.bind (r.tallies_create? hroutine) ?_
  rintro (e | _)
  · refine h.bind (Program.tallies_sample (hkind false)) fun _ => ?_
    exact h.bind (h.signal rfl) fun _ => h.done _
  · exact h.bind (Program.tallies_sample (hkind true)) fun _ => h.done _

theorem tallies_sampleSearch (hkind : ∀ hits, kind (.searchResults hits) = false)
    (search : SearchKind) (response : SearchResponse D) :
    (sampleSearch search response).Tallies kind := by
  have h := Program.routine_tallies hroutine
  exact h.bind (Program.tallies_sample (hkind _)) fun _ => h.signal rfl

/-- **Any request has the samples of a kind that its exchanges call for**, unless the kind is one of
those that say how making sure of the collection ended, or count hits. -/
theorem tallies_serve (hensure : ∀ success, kind (.collectionOperation .ensure success) = false)
    (hhits : ∀ hits, kind (.searchResults hits) = false) (request : Request D) :
    (r.serve request).Tallies kind :=
  r.routine_serve (Program.routine_tallies hroutine)
    (fun _ => tallies_sampleSearch hroutine hhits) (r.tallies_ensure hroutine hensure)
    (r.tallies_dropCollection hroutine)

end tallies

/-! ## Making sure of the collection -/

section ensure

variable {α σ : Type} (b : Backend σ) (state : σ)

/-- Making sure of the collection takes one sample of how it has ended. -/
theorem filter_samples_ensure :
    (r.ensure.samples b state).filter (Sample.isChange .ensure) =
      [.collectionOperation .ensure (r.ensure.value b state)] := by
  have hcreate : (r.create?.samples b state).filter (Sample.isChange .ensure) = [] :=
    Program.filter_samples_eq_nil (r.tallies_create? (Sample.isChange_of_isRoutine .ensure))
      Exchange.filter_isChange_ensure_samples b state
  rw [ensure, Program.samples_bind, Program.value_bind, List.filter_append, hcreate]
  rcases r.create?.value b state with e | _ <;> rfl

/-- A program that makes sure of the collection and takes no other such sample. -/
theorem EnsuresFirst.filter_samples {p : Program α}
    (hp : r.EnsuresFirst (fun _ p => p.Tallies (Sample.isChange .ensure)) p) :
    (p.samples b state).filter (Sample.isChange .ensure) =
      [.collectionOperation .ensure (r.ensure.value b state)] := by
  obtain ⟨l, q, hl, hq, rfl⟩ := hp
  have h := Program.routine_tallies (Sample.isChange_of_isRoutine .ensure)
  have hl : (Program.signals l).Tallies (Sample.isChange .ensure) :=
    h.signals fun s hs => h.signal (hl s hs)
  rw [Program.samples_bind, Program.samples_bind, List.filter_append, List.filter_append,
    Program.filter_samples_eq_nil hl Exchange.filter_isChange_ensure_samples, Program.final_signals,
    filter_samples_ensure, Program.filter_samples_eq_nil hq Exchange.filter_isChange_ensure_samples]
  rfl

/-- For each request there is one sample of how making sure of the collection has ended, if the
collection is made sure of. -/
theorem filter_isChange_ensure_serve (request : Request D) :
    ((r.serve request).samples b state).filter (Sample.isChange .ensure) =
      if r.ensures request then [.collectionOperation .ensure (r.ensure.value b state)]
      else [] := by
  have h := Program.routine_tallies (Sample.isChange_of_isRoutine .ensure)
  have hhits : request.isSearch = true → ∀ (kind : SearchKind) (response : SearchResponse D),
      (sampleSearch kind response).Tallies (Sample.isChange .ensure) := fun _ =>
    tallies_sampleSearch (Sample.isChange_of_isRoutine .ensure) fun _ => rfl
  rcases hensures : r.ensures request with _ | _
  · exact Program.filter_samples_eq_nil (r.routine_serve_of_not_ensures h hhits
      (r.tallies_dropCollection (Sample.isChange_of_isRoutine .ensure)) hensures)
      Exchange.filter_isChange_ensure_samples b state
  · exact (r.ensuresFirst_serve h hhits hensures).filter_samples r b state

end ensure

/-! ## Searches -/

section hits

variable {α β σ : Type} {n : α → Nat}

/-- Whether a program counts the hits of what it ends with once, and nothing if it fails. -/
def Reports (n : α → Nat) (p : Program (Except RepositoryError α)) : Prop :=
  ∀ (σ : Type) (b : Backend σ) (state : σ),
    (p.samples b state).filter Sample.isHits =
      (p.value b state).toOption.toList.map fun x => .searchResults (n x)

/-- What comes first counts no hits. -/
theorem reports_bind {p : Program β} {k : β → Program (Except RepositoryError α)}
    (hp : p.Tallies Sample.isHits) (hk : ∀ x, Reports n (k x)) : Reports n (p >>= k) := by
  intro σ b state
  rw [Program.samples_bind, List.filter_append,
    Program.filter_samples_eq_nil hp Exchange.filter_isHits_samples, Program.value_bind, hk]
  rfl

theorem reports_lift_bind {p : Program β} {k : β → Action α} (hp : p.Tallies Sample.isHits)
    (hk : ∀ x, Reports n (k x).run) : Reports n ((liftM p : Action β) >>= k).run := by
  rw [Action.run_lift_bind]
  exact reports_bind hp hk

/-- An action that fails has counted nothing. -/
theorem reports_action_bind {a : Action β} {k : β → Action α}
    (ha : a.run.Tallies Sample.isHits) (hk : ∀ x, Reports n (k x).run) :
    Reports n (a >>= k).run := by
  rw [ExceptT.run_bind]
  refine reports_bind ha ?_
  rintro (e | x)
  · exact fun _ _ _ => rfl
  · exact hk x

theorem reports_search (c : SearchCriteria) :
    Reports (fun result => result.response.hits.length) (r.search c).run := by
  have h := Program.routine_tallies Sample.isHits_of_isRoutine
  refine reports_action_bind (h.ofExcept _ _) fun _ => ?_
  refine reports_lift_bind (r.tallies_ensure Sample.isHits_of_isRoutine fun _ => rfl) fun _ => ?_
  refine reports_lift_bind (h.signals fun s hs => h.signal ?_) fun _ => ?_
  · exact c.isRoutine_of_mem_assemblySignals r.schema s hs
  · refine reports_lift_bind (h.signal rfl) fun _ => ?_
    refine reports_action_bind (h.action_timed _ (h.action_perform rfl rfl)) fun answer => ?_
    exact reports_action_bind (h.ofExcept _ _) fun response _ _ _ => rfl

theorem reports_vectorSearch (s : VectorSearch) :
    Reports (fun response => response.hits.length) (r.vectorSearch s).run := by
  have h := Program.routine_tallies Sample.isHits_of_isRoutine
  refine reports_action_bind (h.ofExcept _ _) fun _ => ?_
  refine reports_lift_bind (h.signal rfl) fun _ => ?_
  refine reports_action_bind (h.action_timed _ (h.action_perform rfl rfl)) fun answers => ?_
  refine reports_action_bind (h.ofExcept _ _) fun answer => ?_
  exact reports_action_bind (h.ofExcept _ _) fun response _ _ _ => rfl

/-- How many hits are returned for a request, if it is a search that succeeds. -/
def hitsReturned (b : Backend σ) : Request D → σ → Option Nat
  | .search c, state =>
    ((r.search c).run.value b state).toOption.map fun result => result.response.hits.length
  | .vectorSearch s, state =>
    ((r.vectorSearch s).run.value b state).toOption.map fun response => response.hits.length
  | _, _ => none

/-- For each request there is one count of the hits that are returned, if there are. -/
theorem filter_isHits_serve (b : Backend σ) (request : Request D) (state : σ) :
    ((r.serve request).samples b state).filter Sample.isHits =
      (r.hitsReturned b request state).toList.map .searchResults := by
  have h := Program.routine_tallies Sample.isHits_of_isRoutine
  rcases hsearch : request.isSearch with _ | _
  · have hnone : r.hitsReturned b request state = none := by
      cases request <;> first | rfl | cases hsearch
    have hquiet : (r.serve request).Tallies Sample.isHits := by
      refine r.routine_serve h ?_ (r.tallies_ensure Sample.isHits_of_isRoutine fun _ => rfl)
        (r.tallies_dropCollection Sample.isHits_of_isRoutine)
      rw [hsearch]
      nofun
    rw [hnone, Program.filter_samples_eq_nil hquiet Exchange.filter_isHits_samples]
    rfl
  · cases request with
    | search c =>
        rw [serve, Program.samples_bind, Program.pure_eq, Program.samples_done, List.append_nil,
          r.reports_search c, hitsReturned]
        cases (r.search c).run.value b state <;> rfl
    | vectorSearch s =>
        rw [serve, Program.samples_bind, Program.pure_eq, Program.samples_done, List.append_nil,
          r.reports_vectorSearch s, hitsReturned]
        cases (r.vectorSearch s).run.value b state <;> rfl
    | _ => cases hsearch

end hits

end Repository

/-! ## Metrics -/

/-- The metrics of a run, in order. -/
def Program.metrics {α σ : Type} (b : Backend σ) (p : Program α) (state : σ) : List Metric :=
  (p.samples b state).map Sample.metric

/-- The metrics of a kind come from the samples of that kind. -/
theorem Program.filter_metrics {α σ : Type} (b : Backend σ) (p : Program α) (state : σ)
    {kind : Sample → Bool} {of : Metric → Bool} (hof : ∀ s : Sample, of s.metric = kind s) :
    (p.metrics b state).filter of = ((p.samples b state).filter kind).map Sample.metric := by
  rw [metrics, List.filter_map]
  exact congrArg (fun q => ((p.samples b state).filter q).map Sample.metric) (funext hof)

/-- What some of the items of a list give, one each. -/
theorem flatMap_ite_singleton {α β : Type} (p : α → Bool) (f : α → β) (l : List α) :
    (l.flatMap fun a => if p a then [f a] else []) = (l.filter p).map f := by
  induction l with
  | nil => rfl
  | cons a rest ih =>
      rw [List.flatMap_cons, ih, List.filter_cons]
      cases p a <;> rfl

/-! ## Sequences of requests -/

namespace Repository

variable {D σ : Type} (r : Repository D) (b : Backend σ)

/-- The requests of a sequence, each with the state of the service in which it begins. -/
def starts : List (Request D) → σ → List (Request D × σ)
  | [], _ => []
  | request :: rest, state => (request, state) :: starts rest ((r.serve request).final b state)

/-- The samples of a sequence of requests are those of each of them. -/
theorem samples_forM_serve (requests : List (Request D)) (state : σ) :
    (requests.forM r.serve).samples b state =
      (r.starts b requests state).flatMap fun x => (r.serve x.1).samples b x.2 := by
  induction requests generalizing state with
  | nil => rfl
  | cons request rest ih =>
      change (r.serve request >>= fun _ => rest.forM r.serve).samples b state = _
      rw [Program.samples_bind, ih, starts, List.flatMap_cons]

/-- Of a kind that is not due to one request alone, a sequence of requests has the samples that its
exchanges call for. -/
theorem filter_samples_forM_serve {kind : Sample → Bool}
    (hroutine : ∀ s : Sample, s.isRoutine = true → kind s = false)
    (hensure : ∀ success, kind (.collectionOperation .ensure success) = false)
    (hhits : ∀ hits, kind (.searchResults hits) = false) (requests : List (Request D)) (state : σ) :
    ((requests.forM r.serve).samples b state).filter kind =
      ((requests.forM r.serve).exchanges b state).flatMap fun x => x.samples.filter kind := by
  have htallies : (requests.forM r.serve).Tallies kind :=
    (Program.closed_tallies kind).forM (r.tallies_serve hroutine hensure hhits) requests
  rw [htallies, List.filter_flatMap]

/-- The changes of a kind are counted that the exchanges call for. -/
theorem filter_metrics_change (change : CollectionChange) (hchange : change ≠ .ensure)
    {happened : Exchange → Bool}
    (hsamples : ∀ x : Exchange, x.samples.filter (Sample.isChange change) =
      if happened x then [.collectionOperation change true] else [])
    (requests : List (Request D)) (state : σ) :
    (((requests.forM r.serve).metrics b state).filter fun m =>
        m.name = "typesense_criteria_collection_operations_total" ∧
          ("operation", change.label) ∈ m.labels) =
      (((requests.forM r.serve).exchanges b state).filter happened).map (fun _ =>
        (Sample.collectionOperation change true).metric) := by
  have hensure (success : Bool) :
      Sample.isChange change (.collectionOperation .ensure success) = false :=
    decide_eq_false hchange.symm
  rw [Program.filter_metrics b _ state (Sample.isChange_eq change),
    r.filter_samples_forM_serve b (Sample.isChange_of_isRoutine change) hensure fun _ => rfl,
    List.map_flatMap, ← flatMap_ite_singleton]
  refine congrArg (fun g => ((requests.forM r.serve).exchanges b state).flatMap g)
    (funext fun x => ?_)
  rw [hsamples]
  cases happened x <;> rfl

/-- **The metrics of a run account for all that was done in it**, whatever the service answers. For
each exchange, in order, there is one count of a call, with the operation and the status of the
exchange. Of the changes of the collection there is one count for each request for which the
collection is made sure of, with the value of that, one for each collection that was created, and
one for each that was deleted. For each search that has succeeded the number of hits is observed. -/
theorem metrics_account_for_requests (requests : List (Request D)) (state : σ) :
    let run := requests.forM r.serve
    let metrics := run.metrics b state
    let exchanges := run.exchanges b state
    let starts := r.starts b requests state
    let calls := "typesense_criteria_backend_operations_total"
    let changes := "typesense_criteria_collection_operations_total"
    let hits := "typesense_criteria_search_results"
    (metrics.filter fun m => m.name = calls) =
        exchanges.map (fun x =>
          ⟨true, calls, [("operation", x.operation), ("status", x.status)], some 1⟩) ∧
      (metrics.filter fun m => m.name = changes ∧ ("operation", "ensure") ∈ m.labels) =
        (starts.filter fun x => r.ensures x.1).map (fun x =>
          ⟨true, changes, [("operation", "ensure"),
            ("status", if r.ensure.value b x.2 then "success" else "error")], some 1⟩) ∧
      (metrics.filter fun m => m.name = changes ∧ ("operation", "create") ∈ m.labels) =
        (exchanges.filter Exchange.hasCreated).map (fun _ =>
          ⟨true, changes, [("operation", "create"), ("status", "success")], some 1⟩) ∧
      (metrics.filter fun m => m.name = changes ∧ ("operation", "drop") ∈ m.labels) =
        (exchanges.filter Exchange.hasDropped).map (fun _ =>
          ⟨true, changes, [("operation", "drop"), ("status", "success")], some 1⟩) ∧
      (metrics.filter fun m => m.name = hits) =
        (starts.filterMap fun x => r.hitsReturned b x.1 x.2).map (fun n =>
          ⟨false, hits, [], some n⟩) := by
  intro run metrics exchanges starts calls changes hits
  refine ⟨?_, ?_, ?_, ?_, ?_⟩
  · rw [Program.filter_metrics b run state Sample.isCall_eq,
      r.filter_samples_forM_serve b Sample.isCall_of_isRoutine (fun _ => rfl) (fun _ => rfl),
      List.map_flatMap, List.map_eq_flatMap]
    refine congrArg (fun g => exchanges.flatMap g) (funext fun x => ?_)
    rw [x.filter_isCall_samples, ← x.label_operation, ← x.label_of_outcome]
    rfl
  · rw [Program.filter_metrics b run state (Sample.isChange_eq .ensure), samples_forM_serve,
      List.filter_flatMap, List.map_flatMap, ← flatMap_ite_singleton]
    refine congrArg (fun g => starts.flatMap g) (funext fun x => ?_)
    rw [filter_isChange_ensure_serve]
    cases r.ensures x.1 <;> rfl
  · exact r.filter_metrics_change b .create (by decide) Exchange.filter_isChange_create_samples
      requests state
  · exact r.filter_metrics_change b .drop (by decide) Exchange.filter_isChange_drop_samples
      requests state
  · rw [Program.filter_metrics b run state Sample.isHits_eq, samples_forM_serve,
      List.filter_flatMap, List.map_flatMap, List.filterMap_eq_flatMap_toList, List.map_flatMap]
    refine congrArg (fun g => starts.flatMap g) (funext fun x => ?_)
    rw [filter_isHits_serve, List.map_map]
    rfl

/-- A service that has a single document, which another client deletes as soon as it was replaced,
and that cannot be reached for searches by vector. The state is whether the collection is there. -/
def accountedSample : Backend Bool
  | .collectionExists _ => fun there => (.ok there, there)
  | .createCollection _ => fun _ => (.ok (), true)
  | .deleteCollection _ => fun _ => (.ok (), false)
  | .search _ _ => fun there => (.ok (.object [("hits", .array [])]), there)
  | .multiSearch _ => fun there => (.error (.connection "refused"), there)
  | .importDocuments _ _ _ => fun there => (.ok [], there)
  | .retrieve _ identifier => fun there =>
    (if identifier = "1" then .ok (.string "shoe") else .error .notFound, there)
  | .create _ body => fun there => (.ok body, there)
  | .update _ _ body => fun there => (.ok body, there)
  | .delete _ _ => fun there => (.error .notFound, there)
  | .deleteByFilter _ _ => fun there => (.ok 2, there)

/-- Requests that make each of the eleven calls, with successes and failures of both kinds. -/
theorem metrics_account_for_requests_products :
    let requests : List (Request Json) :=
      [.importDocuments [.string "shoe"], .search {},
        .vectorSearch { field := "embedding", vector := [] }, .update "1" (.string "boot"),
        .update "2" (.string "boot"), .delete "1", .deleteWhere (Filter.empty.eq "id" (.text "3")),
        .dropCollection]
    let metrics := (requests.forM vectorProducts.serve).metrics accountedSample false
    let looked := [("operation", "collection_exists"), ("status", "success")]
    (metrics.filter fun m => m.name = "typesense_criteria_backend_operations_total").map
        Metric.labels =
      [looked, [("operation", "create_collection"), ("status", "success")],
        [("operation", "import"), ("status", "success")], looked,
        [("operation", "search"), ("status", "success")],
        [("operation", "multi_search"), ("status", "error")], looked,
        [("operation", "retrieve"), ("status", "success")],
        [("operation", "update"), ("status", "success")], looked,
        [("operation", "retrieve"), ("status", "not_found")],
        [("operation", "create"), ("status", "success")], looked,
        [("operation", "retrieve"), ("status", "success")],
        [("operation", "delete"), ("status", "not_found")], looked,
        [("operation", "delete_by_filter"), ("status", "success")], looked,
        [("operation", "delete_collection"), ("status", "success")]] ∧
      (metrics.filter fun m => m.name = "typesense_criteria_search_results").map Metric.amount =
        [some 0] := by
  intro requests metrics looked
  obtain ⟨hcalls, -, -, -, hhits⟩ :=
    vectorProducts.metrics_account_for_requests accountedSample requests false
  exact ⟨(congrArg (List.map Metric.labels) hcalls).trans rfl,
    (congrArg (List.map Metric.amount) hhits).trans rfl⟩

end Repository

end CollectionSearch
