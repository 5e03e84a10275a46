import CollectionSearch.Proofs.Repository.Compositional
import CollectionSearch.Repository.Documents
import CollectionSearch.Repository.Searches

/-!
# Guarded calls

Calls that destroy or create something are made only right after a look-up that allows them,
whatever the service answers to the calls before and after. This is a property of single programs:
each call is judged by the exchange in front of it. That exchange may belong to an earlier
operation, so a program is judged for every exchange that it may be started after.

* `Exchange` : a call with its outcome; `Program.exchanges` : those of a run, in order.
* `Program.Obeys` : whether all calls of a program are permitted by the exchange before each.
* `Request`, `Repository.serve` : what a repository can be asked to do.
* `Repository.Guarded` : what a repository permits.

**Main statements:** `obeys_bind_iff` judges one program after the other, `permits_of_mem_exchanges`
turns the judgement into a statement about runs, `safe_serve` judges all requests, and
`guarded_of_mem_exchanges` speaks of the runs of any sequence of them.
-/

namespace CollectionSearch

/-! ## Exchanges -/

/-- A call and how it ended. -/
structure Exchange where
  /-- The call. -/
  call : Call
  /-- How it ended. -/
  outcome : call.Outcome

/-- The exchange of a step, if it is a call. -/
def Step.exchange? : Step → Option Exchange
  | signal _ => none
  | call c o => some ⟨c, o⟩

namespace Program

variable {α β σ : Type}

/-- The exchanges of a run, in order. -/
def exchanges (b : Backend σ) (p : Program α) (state : σ) : List Exchange :=
  (p.run b state).2.1.filterMap Step.exchange?

@[simp] theorem exchanges_call (b : Backend σ) (c : Call) (next : c.Outcome → Program α)
    (state : σ) :
    (call c next).exchanges b state =
      ⟨c, ((b c).run state).1⟩ ::
        (next ((b c).run state).1).exchanges b ((b c).run state).2 := rfl

/-! ## Judging programs -/

variable (permits : Option Exchange → Call → Prop)

/-- Whether each call of a program is permitted by the exchange before it, whatever is answered, and
the program ends as it should. The last argument is the exchange before the program. -/
def Obeys : (p : Program α) → (ends : Option Exchange → α → Prop) → Option Exchange → Prop
  | done a, ends, last => ends last a
  | emit _ next, ends, last => next.Obeys ends last
  | call c next, ends, last => permits last c ∧ ∀ o, (next o).Obeys ends (some ⟨c, o⟩)

variable {permits}

/-- One program after the other: the second is judged where the first ends. -/
theorem obeys_bind_iff {k : α → Program β} {ends : Option Exchange → β → Prop} :
    (p : Program α) → (last : Option Exchange) →
      ((p >>= k).Obeys permits ends last ↔
        p.Obeys permits (fun last a => (k a).Obeys permits ends last) last)
  | done _, _ => Iff.rfl
  | emit _ next, last => obeys_bind_iff next last
  | call c next, _ => and_congr_right fun _ => forall_congr' fun o =>
      obeys_bind_iff (next o) (some ⟨c, o⟩)

/-- Less may be asked of the end. -/
theorem Obeys.mono {ends ends' : Option Exchange → α → Prop}
    (h : ∀ last a, ends last a → ends' last a) :
    {p : Program α} → {last : Option Exchange} → p.Obeys permits ends last →
      p.Obeys permits ends' last
  | done a, last, hp => h last a hp
  | emit _ next, _, hp => Obeys.mono (p := next) h hp
  | call _ next, _, hp => ⟨hp.1, fun o => Obeys.mono (p := next o) h (hp.2 o)⟩

/-- The sample of a duration is permitted. -/
theorem obeys_timed {t : Timed} {p : Program α} {ends : Option Exchange → α → Prop}
    {last : Option Exchange} (h : p.Obeys permits ends last) :
    (timed t p).Obeys permits ends last := (obeys_bind_iff p last).mpr h

/-- **What a program obeys holds of all its runs**: each call is permitted by the exchange before
it, which for the first call is the one before the program. -/
theorem permits_of_mem_exchanges (b : Backend σ) {ends : Option Exchange → α → Prop} :
    (p : Program α) → (state : σ) → (last : Option Exchange) → p.Obeys permits ends last →
      ∀ before x after, p.exchanges b state = before ++ x :: after →
        permits (before.getLast?.or last) x.call
  | done _, _, _, _, before, x, after, h => by
      exact absurd h.symm (List.append_ne_nil_of_right_ne_nil before (List.cons_ne_nil x after))
  | emit _ next, state, last, hp, before, x, after, h =>
      permits_of_mem_exchanges b next state last hp before x after h
  | call c next, state, last, hp, before, x, after, h => by
      rw [exchanges_call] at h
      rcases before with _ | ⟨y, before⟩
      · cases h
        exact hp.1
      · obtain ⟨rfl, hrest⟩ := List.cons_eq_cons.mp h
        have hpermits := permits_of_mem_exchanges b _ _ _ (hp.2 _) before x after hrest
        rw [List.getLast?_cons]
        rcases hlast : before.getLast? with _ | z
        · rw [hlast] at hpermits
          exact hpermits
        · rw [hlast] at hpermits
          exact hpermits

end Program

/-! ## What a repository permits -/

/-- The names of the collections that a call is about. -/
def Call.collections : Call → List String
  | collectionExists name => [name]
  | createCollection declaration => [declaration.name]
  | deleteCollection name => [name]
  | search collection _ => [collection]
  | multiSearch requests => requests.map MultiSearchRequest.collection
  | importDocuments collection _ _ => [collection]
  | retrieve collection _ => [collection]
  | create collection _ => [collection]
  | update collection _ _ => [collection]
  | delete collection _ => [collection]
  | deleteByFilter collection _ => [collection]

namespace Repository

variable {D : Type} (r : Repository D)

/-- Whether an exchange has found a document that can be read. -/
def Found (identifier : String) (last : Option Exchange) : Prop :=
  ∃ body document, last = some ⟨.retrieve r.name identifier, .ok body⟩ ∧
    r.codec.decode body = .ok document

/-- The guard of a call: what the exchange right before it must have been. The collection is created
as declared when it was not there, and deleted when it was. A document is replaced or deleted when
it was found. A filter that says nothing deletes nothing. -/
def Guard (last : Option Exchange) : Call → Prop
  | .createCollection declaration =>
    declaration = r.schema.toDeclaration ∧ last = some ⟨.collectionExists r.name, .ok false⟩
  | .deleteCollection _ => last = some ⟨.collectionExists r.name, .ok true⟩
  | .update _ identifier _ => r.Found identifier last
  | .delete _ identifier => r.Found identifier last
  | .deleteByFilter _ expression => expression ≠ ""
  | _ => True

/-- Whether a call is about the collection of the repository and its guard holds. -/
structure Guarded (last : Option Exchange) (c : Call) : Prop where
  /-- The call is about no other collection. -/
  addressed : ∀ name ∈ c.collections, name = r.name
  /-- The guard of the call holds. -/
  guard : r.Guard last c

/-- A call about the collection alone needs its guard only. -/
theorem guarded_of_collections {r : Repository D} {last : Option Exchange} {c : Call}
    (hc : c.collections = [r.name]) (h : r.Guard last c) : r.Guarded last c where
  addressed := by
    rw [hc]
    exact List.forall_mem_singleton.mpr rfl
  guard := h

/-- Whether all calls of a program are guarded, after whatever exchange it is started. -/
def Safe {α : Type} (p : Program α) : Prop :=
  ∀ last, p.Obeys r.Guarded (fun _ _ => True) last

/-! ## Safe programs -/

section safe

variable {r} {β : Type}

/-- A program is safe when its parts are. -/
theorem compositional_safe (r : Repository D) :
    Program.Compositional fun _ p => r.Safe p where
  done _ _ := trivial
  emit _ _ hp := hp
  bind hp hk last :=
    (Program.obeys_bind_iff _ last).mpr ((hp last).mono fun last a _ => hk a last)

theorem safe_call {c : Call} (h : ∀ last, r.Guarded last c) : r.Safe (Program.call c .done) :=
  fun last => ⟨h last, fun _ => trivial⟩

/-- A single call that is guarded where it is made. -/
theorem obeys_perform_bind {operation : Operation} {c : Call} {k : c.Reply → Action β}
    {last : Option Exchange} (h : r.Guarded last c) (hk : ∀ x, r.Safe (k x).run) :
    (Action.perform operation c >>= k).run.Obeys r.Guarded (fun _ _ => True) last := by
  refine ⟨h, ?_⟩
  rintro (e | x)
  · trivial
  · exact hk x _

end safe

/-! ## The operations -/

theorem safe_create? : r.Safe r.create? := by
  intro last
  refine ⟨guarded_of_collections rfl trivial, ?_⟩
  rintro (e | _ | _)
  · trivial
  · refine ⟨guarded_of_collections rfl ⟨rfl, rfl⟩, ?_⟩
    rintro (e | _) <;> trivial
  · trivial

theorem safe_ensure : r.Safe r.ensure := by
  refine r.compositional_safe.bind r.safe_create? ?_
  rintro (e | _) last <;> trivial

theorem safe_dropCollection : r.Safe r.dropCollection.run := by
  intro last
  refine ⟨guarded_of_collections rfl trivial, ?_⟩
  rintro (e | _ | _)
  · trivial
  · trivial
  · refine ⟨guarded_of_collections rfl rfl, ?_⟩
    rintro (e | _) <;> trivial

theorem safe_importDocuments (documents : List D) : r.Safe (r.importDocuments documents).run := by
  have h := r.compositional_safe
  refine h.lift_bind r.safe_ensure fun _ => ?_
  refine h.action_bind (h.mapM (fun _ => h.ofExcept _ _) documents) fun bodies => ?_
  refine h.action_timed _ (h.action_bind (h.action_perform (safe_call fun _ => ?_)) ?_)
  · exact guarded_of_collections rfl trivial
  · exact fun _ _ => trivial

theorem safe_sampleSearch (kind : SearchKind) (response : SearchResponse D) :
    r.Safe (sampleSearch kind response) := fun _ => trivial

theorem safe_search (c : SearchCriteria) : r.Safe (r.search c).run := by
  have h := r.compositional_safe
  refine h.action_bind (h.ofExcept _ _) fun _ => ?_
  refine h.lift_bind r.safe_ensure fun _ => ?_
  refine h.lift_bind (h.signals _) fun _ => ?_
  refine h.lift_bind (h.signal _) fun _ => ?_
  refine h.action_bind (h.action_timed _ (h.action_perform (safe_call fun _ => ?_)))
    fun answer => ?_
  · exact guarded_of_collections rfl trivial
  · refine h.action_bind (h.ofExcept _ _) fun response => ?_
    exact h.lift_bind (r.safe_sampleSearch _ response) fun _ _ => trivial

theorem safe_vectorSearch (s : VectorSearch) : r.Safe (r.vectorSearch s).run := by
  have h := r.compositional_safe
  refine h.action_bind (h.ofExcept _ _) fun _ => ?_
  refine h.lift_bind (h.signal _) fun _ => ?_
  refine h.action_bind (h.action_timed _ (h.action_perform (safe_call fun _ => ?_)))
    fun answers => ?_
  · exact guarded_of_collections rfl trivial
  · refine h.action_bind (h.ofExcept _ _) fun answer => ?_
    refine h.action_bind (h.ofExcept _ _) fun response => ?_
    exact h.lift_bind (r.safe_sampleSearch _ response) fun _ _ => trivial

/-- A look-up that ends with a document has found it in its last exchange. -/
theorem obeys_get (identifier : String) (last : Option Exchange) :
    (r.get identifier).run.Obeys r.Guarded
      (fun last result => ∀ document, result = .ok (some document) → r.Found identifier last)
      last := by
  rw [get, Action.run_lift_bind, Program.obeys_bind_iff]
  refine (r.safe_ensure last).mono fun last _ _ => ?_
  refine ⟨guarded_of_collections rfl trivial, ?_⟩
  rintro ((_ | e | e | e) | body)
  case ok =>
    change Program.Obeys _ (do return some (← Action.decode r.codec.decode body) : Action _).run _ _
    rw [Action.run_decode_some]
    intro document hdocument
    rcases hd : r.codec.decode body with e | found <;> rw [hd] at hdocument
    · cases hdocument
    · exact ⟨body, found, rfl, hd⟩
  all_goals nofun

theorem safe_get (identifier : String) : r.Safe (r.get identifier).run := fun last =>
  (r.obeys_get identifier last).mono fun _ _ _ => trivial

/-- What is done after a look-up may rely on what was found. -/
theorem safe_get_bind {β : Type} (identifier : String) {k : Option D → Action β}
    (hnone : r.Safe (k none).run)
    (hsome : ∀ document last, r.Found identifier last →
      (k (some document)).run.Obeys r.Guarded (fun _ _ => True) last) :
    r.Safe (r.get identifier >>= k).run := by
  intro last
  rw [ExceptT.run_bind, Program.obeys_bind_iff]
  refine (r.obeys_get identifier last).mono fun last result hfound => ?_
  rcases result with e | _ | document
  · trivial
  · exact hnone last
  · exact hsome document last (hfound document rfl)

theorem safe_delete (identifier : String) : r.Safe (r.delete identifier).run := by
  refine r.safe_get_bind identifier (fun _ => trivial) fun document last hfound => ?_
  refine Program.obeys_timed (obeys_perform_bind (guarded_of_collections rfl hfound) ?_)
  have h := r.compositional_safe
  exact fun body => h.action_bind (h.ofExcept _ _) fun _ _ => trivial

theorem safe_update (identifier : String) (document : D) :
    r.Safe (r.update identifier document).run := by
  have h := r.compositional_safe
  refine r.safe_get_bind identifier ?_ fun existing last hfound => ?_
  · refine h.action_bind (h.ofExcept _ _) fun body => h.action_timed _ ?_
    refine h.action_bind ?_ fun _ => h.ofExcept _ _
    refine h.lift_bind (h.signal _) fun _ => h.action_perform (safe_call fun _ => ?_)
    exact guarded_of_collections rfl trivial
  · -- writing the document down makes no call, so what was found is still the last exchange
    rw [Action.encode, Action.run_ofExcept_bind]
    rcases r.codec.encode document with e | body
    · trivial
    · refine Program.obeys_timed ?_
      refine obeys_perform_bind (guarded_of_collections rfl hfound) fun _ => ?_
      exact h.ofExcept _ _

theorem safe_deleteWhere (f : Filter) : r.Safe (r.deleteWhere f).run := by
  have h := r.compositional_safe
  refine h.lift_bind (h.signals _) fun _ => ?_
  by_cases hempty : f.expression.isEmpty = true
  · rw [if_pos hempty]
    exact fun _ => trivial
  · rw [if_neg hempty]
    refine h.lift_bind r.safe_ensure fun _ => ?_
    refine h.action_timed _ (h.action_bind (h.action_perform (safe_call fun _ => ?_)) ?_)
    · exact guarded_of_collections rfl fun heq => hempty (String.isEmpty_iff.mpr heq)
    · exact fun _ _ => trivial

end Repository

/-! ## Sequences of requests -/

/-- What a repository can be asked to do. -/
inductive Request (D : Type) where
  | ensure
  | dropCollection
  | importDocuments (documents : List D)
  | search (criteria : SearchCriteria)
  | vectorSearch (search : VectorSearch)
  | get (identifier : String)
  | update (identifier : String) (document : D)
  | delete (identifier : String)
  | deleteWhere (f : Filter)

namespace Repository

variable {D σ : Type} (r : Repository D)

/-- Does what is asked for, and passes over the result. -/
def serve : Request D → Program Unit
  | .ensure => do let _ ← r.ensure
  | .dropCollection => do let _ ← r.dropCollection.run
  | .importDocuments documents => do let _ ← (r.importDocuments documents).run
  | .search criteria => do let _ ← (r.search criteria).run
  | .vectorSearch search => do let _ ← (r.vectorSearch search).run
  | .get identifier => do let _ ← (r.get identifier).run
  | .update identifier document => do let _ ← (r.update identifier document).run
  | .delete identifier => do let _ ← (r.delete identifier).run
  | .deleteWhere f => do let _ ← (r.deleteWhere f).run

/-- All calls of a request are guarded, whatever came before it. -/
theorem safe_serve (request : Request D) : r.Safe (r.serve request) := by
  have h := r.compositional_safe
  have hdone {α : Type} (a : α) : r.Safe (pure () : Program Unit) := fun _ => trivial
  cases request with
  | ensure => exact h.bind r.safe_ensure hdone
  | dropCollection => exact h.bind r.safe_dropCollection hdone
  | importDocuments documents => exact h.bind (r.safe_importDocuments documents) hdone
  | search criteria => exact h.bind (r.safe_search criteria) hdone
  | vectorSearch search => exact h.bind (r.safe_vectorSearch search) hdone
  | get identifier => exact h.bind (r.safe_get identifier) hdone
  | update identifier document => exact h.bind (r.safe_update identifier document) hdone
  | delete identifier => exact h.bind (r.safe_delete identifier) hdone
  | deleteWhere f => exact h.bind (r.safe_deleteWhere f) hdone

/-- All calls of a sequence of requests are guarded. -/
theorem safe_serveAll (requests : List (Request D)) : r.Safe (requests.forM r.serve) :=
  r.compositional_safe.closed.forM r.safe_serve requests

/-- **In every run of any sequence of requests all calls are guarded**, with any service: each is
about the collection of the repository, and its guard holds for the exchange right before it. -/
theorem guarded_of_mem_exchanges (requests : List (Request D)) (b : Backend σ) (state : σ)
    (before : List Exchange) (x : Exchange) (after : List Exchange)
    (h : (requests.forM r.serve).exchanges b state = before ++ x :: after) :
    (∀ name ∈ x.call.collections, name = r.name) ∧ r.Guard before.getLast? x.call := by
  have hguarded := Program.permits_of_mem_exchanges b (requests.forM r.serve) state none
    (r.safe_serveAll requests none) before x after h
  rw [Option.or_none] at hguarded
  exact ⟨hguarded.addressed, hguarded.guard⟩

/-- A service with one document, which it deletes on demand. The state is whether the collection is
there. -/
def guardedSample : Backend Bool
  | .collectionExists _ => fun present => (.ok present, present)
  | .createCollection _ => fun _ => (.ok (), true)
  | .deleteCollection _ => fun _ => (.ok (), false)
  | .retrieve _ _ => fun present => (.ok (.string "shoe"), present)
  | .delete _ _ => fun present => (.ok (.string "shoe"), present)
  | _ => fun present => (.error .notFound, present)

/-- The collection is dropped, and created again before a document is deleted. -/
theorem guarded_of_mem_exchanges_sample :
    let s := CollectionDraft.schema { name := "products" } (by decide)
    let r : Repository Json := ⟨s, {}, .json⟩
    let run := ([.dropCollection, .delete "1"].forM r.serve).exchanges guardedSample true
    run.map Exchange.call =
        [.collectionExists "products", .deleteCollection "products", .collectionExists "products",
          .createCollection s.toDeclaration, .retrieve "products" "1", .delete "products" "1"] ∧
      r.Found "1" (some ⟨.retrieve "products" "1", .ok (.string "shoe")⟩) := by
  intro s r run
  refine ⟨by rfl, ?_⟩
  have hrun : run =
      [⟨.collectionExists "products", .ok true⟩, ⟨.deleteCollection "products", .ok ()⟩,
        ⟨.collectionExists "products", .ok false⟩, ⟨.createCollection s.toDeclaration, .ok ()⟩,
        ⟨.retrieve "products" "1", .ok (.string "shoe")⟩] ++
      ⟨.delete "products" "1", .ok (.string "shoe")⟩ :: [] := by rfl
  exact (r.guarded_of_mem_exchanges _ _ _ _ _ _ hrun).2

end Repository

end CollectionSearch
