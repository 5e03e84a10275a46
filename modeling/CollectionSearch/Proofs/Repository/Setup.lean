import CollectionSearch.Proofs.Repository.Compositional
import CollectionSearch.Repository.Documents
import CollectionSearch.Repository.Searches

/-!
# Setting a collection up does not matter

Operations make sure of the collection before they read or write documents, and pass over how that
ends. So it does not matter what a service answers when it is asked for the collection or told to
create it: two services that answer the other calls alike are told apart by no operation.

* `Call.isSetup`, `Call.isData` : the calls that set a collection up, and those that are about
  documents.
* `Program.IgnoresSetup` : whether a program passes over how its setup calls end.
* `AgreeOnData` : whether two services answer calls about documents alike.
* `DataRequest`, `Repository.answer` : the operations on documents.

**Main statements:** `Program.IgnoresSetup.alike` compares the runs of such a program with two
services, `ignoresSetup_answer` says that all operations are such programs, and
`answer_alike_of_agreeOnData` puts the two together.
-/

namespace CollectionSearch

/-! ## Calls -/

namespace Call

/-- Whether a call looks for a collection or creates one. -/
def isSetup : Call → Bool
  | collectionExists _ | createCollection _ => true
  | _ => false

/-- Whether a call reads or writes documents of one collection. -/
def isData : Call → Bool
  | search _ _ | importDocuments _ _ _ | retrieve _ _ | create _ _ | update _ _ _ | delete _ _
  | deleteByFilter _ _ => true
  | _ => false

theorem isData_of_isSetup {c : Call} (h : c.isSetup = true) : c.isData = false := by
  cases c <;> first | rfl | cases h

end Call

/-! ## Programs that pass over how setting up ends -/

namespace Program

/-- Whether a program makes calls about documents and calls for setting up, and goes on after the
latter in the same way whatever was answered. -/
inductive IgnoresSetup {α : Type} : Program α → Prop where
  /-- It has ended. -/
  | done (a : α) : IgnoresSetup (done a)
  /-- It signals. -/
  | emit (s : Signal) {p : Program α} (h : IgnoresSetup p) : IgnoresSetup (emit s p)
  /-- It makes a call about documents. -/
  | call {c : Call} {next : c.Outcome → Program α} (hc : c.isData = true)
      (h : ∀ o, IgnoresSetup (next o)) : IgnoresSetup (call c next)
  /-- It sets up and passes over the value of that. -/
  | setup {β : Type} {p : Program β} {q : Program α} (hp : p.MakesOnly fun c => c.isSetup = true)
      (h : IgnoresSetup q) : IgnoresSetup (p >>= fun _ => q)

/-- A program passes over how setting up ends when its parts do. -/
theorem compositional_ignoresSetup : Compositional fun _ p => p.IgnoresSetup where
  done a := .done a
  emit s _ hp := .emit s hp
  bind hp hk := by
    induction hp with
    | done a => exact hk a
    | emit s _ ih => exact .emit s ih
    | call hc _ ih => exact .call hc ih
    | setup hp _ ih =>
        -- what follows the program follows the part of it after setting up
        rw [bind_assoc]
        exact .setup hp ih

/-- A single call about documents. -/
theorem ignoresSetup_call {c : Call} (hc : c.isData = true) :
    (Program.call c Program.done).IgnoresSetup := .call hc fun o => .done o

end Program

/-! ## Two services -/

variable {σ τ : Type}

/-- Whether two services answer calls about documents alike, as long as their states are related.
Setting up may be answered in any way, but leaves related states related. -/
structure AgreeOnData (b : Backend σ) (b' : Backend τ) (R : σ → τ → Prop) : Prop where
  /-- Calls about documents have the same outcome. -/
  outcome : ∀ {c : Call} {s : σ} {t : τ}, c.isData = true → R s t →
    ((b c).run s).1 = ((b' c).run t).1
  /-- They lead to related states. -/
  state : ∀ {c : Call} {s : σ} {t : τ}, c.isData = true → R s t →
    R ((b c).run s).2 ((b' c).run t).2
  /-- The first service is not changed by setting up. -/
  left : ∀ {c : Call} {s : σ} {t : τ}, c.isSetup = true → R s t → R ((b c).run s).2 t
  /-- Nor is the second. -/
  right : ∀ {c : Call} {s : σ} {t : τ}, c.isSetup = true → R s t → R s ((b' c).run t).2

/-- Whether the runs of a program with two services end alike, after the same calls about
documents. -/
structure Program.Alike {α : Type} (b : Backend σ) (b' : Backend τ) (R : σ → τ → Prop)
    (p : Program α) (s : σ) (t : τ) : Prop where
  /-- The values are the same. -/
  value : p.value b s = p.value b' t
  /-- So are the calls about documents. -/
  calls : (p.calls b s).filter Call.isData = (p.calls b' t).filter Call.isData
  /-- The final states are related. -/
  final : R (p.final b s) (p.final b' t)

namespace Program

variable {α β : Type} {b : Backend σ} {b' : Backend τ} {R : σ → τ → Prop} {s : σ} {t : τ}

/-- Setting up makes no calls about documents. -/
theorem filter_calls_of_makesOnly (b : Backend σ) {p : Program β}
    (hp : p.MakesOnly fun c => c.isSetup = true) (s : σ) :
    (p.calls b s).filter Call.isData = [] := by
  refine List.filter_eq_nil_iff.mpr fun c hc => ?_
  rw [Call.isData_of_isSetup (mem_calls_of_makesOnly b p hp s c hc)]
  exact Bool.false_ne_true

/-- Setting up leaves related states related. -/
theorem related_of_makesOnly (h : AgreeOnData b b' R) {p : Program β}
    (hp : p.MakesOnly fun c => c.isSetup = true) (hst : R s t) :
    R (p.final b s) (p.final b' t) := by
  have hleft : R (p.final b s) t :=
    final_of_makesOnly b (I := fun s => R s t) (fun _ hc _ hs => h.left hc hs) p hp s hst
  exact final_of_makesOnly b' (I := R (p.final b s)) (fun _ hc _ ht => h.right hc ht) p hp t hleft

/-- **A program that passes over how setting up ends does the same with two services** that answer
calls about documents alike. -/
theorem IgnoresSetup.alike (h : AgreeOnData b b' R) {p : Program α} (hp : p.IgnoresSetup)
    (hst : R s t) : p.Alike b b' R s t := by
  -- the relation between the states is the invariant: calls about documents keep it since both
  -- services go on alike, and setting up keeps it whatever either of them answers
  induction hp generalizing s t with
  | done a => exact ⟨rfl, rfl, hst⟩
  | emit sig _ ih => exact ⟨(ih hst).value, (ih hst).calls, (ih hst).final⟩
  | @call c next hc _ ih =>
      have hrest := ih ((b c).run s).1 (h.state hc hst)
      rw [h.outcome hc hst] at hrest
      refine ⟨?_, ?_, ?_⟩
      · rw [value_call, value_call, h.outcome hc hst]
        exact hrest.value
      · rw [calls_call, calls_call, List.filter_cons_of_pos hc, List.filter_cons_of_pos hc,
          h.outcome hc hst]
        exact congrArg (c :: ·) hrest.calls
      · rw [final_call, final_call, h.outcome hc hst]
        exact hrest.final
  | @setup β p q hp _ ih =>
      -- what setting up ended with differs between the runs, but `q` does not depend on it
      have hrest := ih (related_of_makesOnly h hp hst)
      refine ⟨?_, ?_, ?_⟩
      · rw [value_bind, value_bind]
        exact hrest.value
      · rw [calls_bind, calls_bind, List.filter_append, List.filter_append,
          filter_calls_of_makesOnly b hp, filter_calls_of_makesOnly b' hp]
        exact hrest.calls
      · rw [final_bind, final_bind]
        exact hrest.final

end Program

/-! ## The operations -/

/-- What a repository can be asked to do with documents. -/
inductive DataRequest (D : Type) where
  | importDocuments (documents : List D)
  | search (criteria : SearchCriteria)
  | get (identifier : String)
  | update (identifier : String) (document : D)
  | delete (identifier : String)
  | deleteWhere (f : Filter)

/-- What is returned for a request. -/
@[reducible] def DataRequest.Result {D : Type} : DataRequest D → Type
  | importDocuments _ => List ImportResult
  | search _ => SearchResult D
  | get _ => Option D
  | update _ _ => D
  | delete _ => Option D
  | deleteWhere _ => Option UInt64

namespace Repository

variable {D : Type} (r : Repository D)

/-- Does what is asked for. -/
def answer : (request : DataRequest D) → Action request.Result
  | .importDocuments documents => r.importDocuments documents
  | .search criteria => r.search criteria
  | .get identifier => r.get identifier
  | .update identifier document => r.update identifier document
  | .delete identifier => r.delete identifier
  | .deleteWhere f => r.deleteWhere f

/-! ## The operations pass over how setting up ends -/

/-- Making sure of the collection only sets it up. -/
theorem ignoresSetup_ensure_bind {α : Type} {q : Program α} (hq : q.IgnoresSetup) :
    (r.ensure >>= fun _ => q).IgnoresSetup := by
  refine .setup (r.makesOnly_ensure.mono ?_) hq
  rintro _ (rfl | rfl) <;> rfl

/-- So does an action that makes sure of the collection first. -/
theorem ignoresSetup_ensure_action {α : Type} {a : Action α} (ha : a.run.IgnoresSetup) :
    ((liftM r.ensure : Action Bool) >>= fun _ => a).run.IgnoresSetup := by
  rw [Action.run_lift_bind]
  exact r.ignoresSetup_ensure_bind ha

theorem ignoresSetup_importDocuments (documents : List D) :
    (r.importDocuments documents).run.IgnoresSetup := by
  have h := Program.compositional_ignoresSetup
  refine r.ignoresSetup_ensure_action ?_
  refine h.action_bind (h.mapM (fun _ => h.ofExcept _ _) documents) fun bodies => ?_
  refine h.action_timed _ (h.action_bind (h.action_perform (Program.ignoresSetup_call rfl)) ?_)
  intro results
  exact h.lift_bind (h.signal _) fun _ => .done _

theorem ignoresSetup_search (c : SearchCriteria) : (r.search c).run.IgnoresSetup := by
  have h := Program.compositional_ignoresSetup
  refine h.action_bind (h.ofExcept _ _) fun _ => ?_
  refine r.ignoresSetup_ensure_action ?_
  refine h.lift_bind (h.signals _) fun _ => h.lift_bind (h.signal _) fun _ => ?_
  refine h.action_bind (h.action_timed _ (h.action_perform (Program.ignoresSetup_call rfl))) ?_
  intro answer
  refine h.action_bind (h.ofExcept _ _) fun response => ?_
  exact h.lift_bind (h.bind (h.signal _) fun _ => h.signal _) fun _ => .done _

theorem ignoresSetup_get (identifier : String) : (r.get identifier).run.IgnoresSetup := by
  have h := Program.compositional_ignoresSetup
  refine r.ignoresSetup_ensure_action ?_
  refine h.lift_bind (h.perform (Program.ignoresSetup_call rfl)) ?_
  rintro ((_ | e | e | e) | body)
  case ok => exact h.action_bind (h.ofExcept _ _) fun _ => .done _
  case error.notFound => exact .done _
  all_goals exact h.lift_bind (h.signal _) fun _ => .done _

theorem ignoresSetup_delete (identifier : String) : (r.delete identifier).run.IgnoresSetup := by
  have h := Program.compositional_ignoresSetup
  refine h.action_bind (r.ignoresSetup_get identifier) ?_
  rintro (_ | found)
  · exact h.lift_bind (h.signal _) fun _ => .done _
  · refine h.action_timed _ (h.action_bind (h.action_perform (Program.ignoresSetup_call rfl)) ?_)
    exact fun body => h.action_bind (h.ofExcept _ _) fun _ => .done _

theorem ignoresSetup_write (identifier : String) (present : Bool) (body : Json) :
    (r.write identifier present body).run.IgnoresSetup := by
  have h := Program.compositional_ignoresSetup
  cases present
  · exact h.lift_bind (h.signal _) fun _ => h.action_perform (Program.ignoresSetup_call rfl)
  · exact h.action_perform (Program.ignoresSetup_call rfl)

theorem ignoresSetup_update (identifier : String) (document : D) :
    (r.update identifier document).run.IgnoresSetup := by
  have h := Program.compositional_ignoresSetup
  refine h.action_bind (r.ignoresSetup_get identifier) fun existing => ?_
  refine h.action_bind (h.ofExcept _ _) fun body => h.action_timed _ ?_
  exact h.action_bind (r.ignoresSetup_write identifier _ body) fun _ => h.ofExcept _ _

theorem ignoresSetup_deleteWhere (f : Filter) : (r.deleteWhere f).run.IgnoresSetup := by
  have h := Program.compositional_ignoresSetup
  refine h.lift_bind (h.signals _) fun _ => ?_
  by_cases hempty : f.expression.isEmpty = true
  · rw [if_pos hempty]
    exact h.lift_bind (h.signal _) fun _ => .done _
  · rw [if_neg hempty]
    refine r.ignoresSetup_ensure_action ?_
    refine h.action_timed _ (h.action_bind (h.action_perform (Program.ignoresSetup_call rfl)) ?_)
    exact fun count => h.lift_bind (h.signal _) fun _ => .done _

/-- All operations on documents pass over how setting up ends. -/
theorem ignoresSetup_answer : (request : DataRequest D) → (r.answer request).run.IgnoresSetup
  | .importDocuments documents => r.ignoresSetup_importDocuments documents
  | .search criteria => r.ignoresSetup_search criteria
  | .get identifier => r.ignoresSetup_get identifier
  | .update identifier document => r.ignoresSetup_update identifier document
  | .delete identifier => r.ignoresSetup_delete identifier
  | .deleteWhere f => r.ignoresSetup_deleteWhere f

end Repository

/-- **Two services that answer calls about documents alike are told apart by no operation.**
Whatever they answer when they are asked for the collection or told to create it, the operation has
the same result, makes the same calls about documents in the same order, and leaves the services in
states in which they go on to answer alike. -/
theorem answer_alike_of_agreeOnData {D : Type} (r : Repository D) (request : DataRequest D)
    {b : Backend σ} {b' : Backend τ} {R : σ → τ → Prop} (h : AgreeOnData b b' R) {s : σ} {t : τ}
    (hst : R s t) :
    (r.answer request).run.value b s = (r.answer request).run.value b' t ∧
      ((r.answer request).run.calls b s).filter Call.isData =
        ((r.answer request).run.calls b' t).filter Call.isData ∧
      R ((r.answer request).run.final b s) ((r.answer request).run.final b' t) := by
  have halike := (r.ignoresSetup_answer request).alike h hst
  exact ⟨halike.value, halike.calls, halike.final⟩

/-- A service with one document, of which the state says whether it is there. It fails all other
calls, those for setting up among them. -/
def failingSetupSample : Backend Bool
  | .retrieve _ _ => fun there => (if there then .ok (.string "shoe") else .error .notFound, there)
  | .delete _ _ => fun _ => (.ok (.string "shoe"), false)
  | _ => fun there => (.error (.connection "refused"), there)

/-- The same service with a collection that can be created, of which the state says whether it is
there. -/
def creatingSetupSample : Backend (Bool × Bool)
  | .collectionExists _ => fun s => (.ok s.2, s)
  | .createCollection _ => fun s => (.ok (), (s.1, true))
  | c => fun s => (((failingSetupSample c).run s.1).1, (((failingSetupSample c).run s.1).2, s.2))

/-- A document is deleted alike whether the collection cannot be found or is created on the way. -/
theorem answer_alike_of_agreeOnData_delete :
    let s := CollectionDraft.schema { name := "products" } (by decide)
    let r : Repository Json := ⟨s, {}, .json⟩
    let p := (r.answer (.delete "1")).run
    let R : Bool → Bool × Bool → Prop := fun there t => there = t.1
    p.calls failingSetupSample true =
        [.collectionExists "products", .retrieve "products" "1", .delete "products" "1"] ∧
      p.calls creatingSetupSample (true, false) =
        [.collectionExists "products", .createCollection s.toDeclaration, .retrieve "products" "1",
          .delete "products" "1"] ∧
      AgreeOnData failingSetupSample creatingSetupSample R ∧
      p.value failingSetupSample true = p.value creatingSetupSample (true, false) ∧
      (p.calls failingSetupSample true).filter Call.isData =
        (p.calls creatingSetupSample (true, false)).filter Call.isData ∧
      R (p.final failingSetupSample true) (p.final creatingSetupSample (true, false)) := by
  intro s r p R
  have hagree : AgreeOnData failingSetupSample creatingSetupSample R := by
    refine ⟨?_, ?_, ?_, ?_⟩
    all_goals
      rintro c there t hc rfl
      cases c <;> first | rfl | cases hc
  exact ⟨rfl, rfl, hagree, answer_alike_of_agreeOnData r (.delete "1") hagree rfl⟩

end CollectionSearch
