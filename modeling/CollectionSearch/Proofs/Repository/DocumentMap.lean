import CollectionSearch.Proofs.Repository.Contention
import CollectionSearch.Proofs.Repository.Setup

/-!
# A repository is a map of documents

Over a reliable store the operations on single documents are those of a map from identifiers to
documents. The collection need not be there: the first operation creates it, and no document is
changed by that.

* `DocumentRequest`, `Repository.fulfil` : the operations on single documents.
* `DocumentMap` : maps of documents; `DocumentRequest.answer`, `DocumentRequest.after` : the
  operations on them; `DocumentMap.along` : what is observed along a sequence of operations.
* `Repository.Represents` : whether a store has the documents of a map.
* `Repository.documentCalls` : the calls about documents that an operation makes.

**Main statements:** `simulates_fulfil` is one operation, `fulfil_eq_documentMap` any sequence of
them.
-/

namespace CollectionSearch

/-! ## Maps of documents -/

/-- Documents by identifier. -/
abbrev DocumentMap (D : Type) : Type := String → Option D

/-- An operation on a single document. -/
inductive DocumentRequest (D : Type) where
  /-- Fetches the document. -/
  | get (identifier : String)
  /-- Replaces the document, or creates it if there is none. -/
  | update (identifier : String) (document : D)
  /-- Deletes the document. -/
  | delete (identifier : String)

namespace DocumentRequest

variable {D : Type}

/-- What an operation on a map returns. -/
def answer (m : DocumentMap D) : DocumentRequest D → Option D
  | get identifier => m identifier
  | update _ document => some document
  | delete identifier => m identifier

/-- The map after an operation. -/
def after (m : DocumentMap D) : DocumentRequest D → DocumentMap D
  | get _ => m
  | update identifier document => Function.update m identifier (some document)
  | delete identifier => Function.update m identifier none

end DocumentRequest

/-- What is observed of each operation of a sequence and of the map that it finds. -/
def DocumentMap.along {D γ : Type} (observe : DocumentMap D → DocumentRequest D → γ) :
    List (DocumentRequest D) → DocumentMap D → List γ
  | [], _ => []
  | request :: rest, m => observe m request :: along observe rest (request.after m)

/-! ## The calls of a change -/

/-- The call of a write. -/
def DocumentWrite.call (collection identifier : String) : DocumentWrite → Call
  | delete => .delete collection identifier
  | update body => .update collection identifier body
  | create body => .create collection body

theorem DocumentWrite.calls_program {σ : Type} (b : Backend σ) (collection identifier : String)
    (w : DocumentWrite) (state : σ) :
    (w.program collection identifier).calls b state = [w.call collection identifier] := by
  cases w <;> rfl

theorem DocumentWrite.isData_call (collection identifier : String) (w : DocumentWrite) :
    (w.call collection identifier).isData = true := by
  cases w <;> rfl

/-- The calls of a plan. -/
def Plan.calls {D : Type} (collection identifier : String) : Plan D → List Call
  | stop _ => []
  | write w => [w.call collection identifier]

/-- They are all about documents. -/
theorem Plan.filter_calls {D : Type} (collection identifier : String) (p : Plan D) :
    (p.calls collection identifier).filter Call.isData = p.calls collection identifier := by
  cases p with
  | stop result => rfl
  | write w => exact List.filter_cons_of_pos (w.isData_call collection identifier)

namespace Repository

variable {D : Type} (r : Repository D)

theorem calls_carryOut {σ : Type} (b : Backend σ) (identifier : String) (p : Plan D) (state : σ) :
    (r.carryOut identifier p).calls b state = p.calls r.name identifier := by
  cases p with
  | stop result => rfl
  | write w =>
      rw [carryOut, Program.calls_bind, DocumentWrite.calls_program]
      rfl

/-! ## The operations in a store -/

/-- Does what is asked for. An update returns the new document. -/
def fulfil : DocumentRequest D → Program (Except RepositoryError (Option D))
  | .get identifier => (r.get identifier).run
  | .update identifier document => (r.change identifier (.update document)).run
  | .delete identifier => (r.change identifier .delete).run

/-- What an operation asks of its document: that it can be written and has the identifier. -/
def Carries : DocumentRequest D → Prop
  | .update identifier document =>
    ∃ body, r.codec.encode document = .ok body ∧ body.get? "id" = some (.string identifier)
  | _ => True

/-- The calls about documents that an operation makes, by the map that it finds: a document that is
there is replaced, and one that is absent is created. -/
def documentCalls (m : DocumentMap D) : DocumentRequest D → List Call
  | .get identifier => [.retrieve r.name identifier]
  | .update identifier document =>
    .retrieve r.name identifier ::
      match r.codec.encode document with
      | .ok body =>
        if (m identifier).isSome then [.update r.name identifier body] else [.create r.name body]
      | .error _ => []
  | .delete identifier =>
    .retrieve r.name identifier ::
      if (m identifier).isSome then [.delete r.name identifier] else []

/-- Whether the documents of a store are those of a map, as they are read. -/
def Represents (s : Store) (m : DocumentMap D) : Prop :=
  ∀ identifier, r.lookedUp (s.documents r.name identifier) = .ok (m identifier)

/-- Whether an operation does in a store what is said of it for a map: it returns what the operation
on the map does, makes the calls that the map calls for, and leaves a store that has the documents
of the map after it. -/
structure Simulates (others : Backend Store) (p : Program (Except RepositoryError (Option D)))
    (s : Store) (m : DocumentMap D) (request : DocumentRequest D) : Prop where
  /-- The value is that of the map. -/
  value : p.value (Store.backend others) s = .ok (request.answer m)
  /-- The calls are those that the map calls for. -/
  calls : (p.calls (Store.backend others) s).filter Call.isData = r.documentCalls m request
  /-- The map is represented after the operation. -/
  represents : r.Represents (p.final (Store.backend others) s) (request.after m)

variable {r} {others : Backend Store} {s : Store} {m : DocumentMap D}

/-- Setting a collection up changes no documents. -/
theorem documents_of_isSetup {c : Call} (hc : c.isSetup = true) (s : Store) :
    ((Store.backend others c).run s).2.documents = s.documents := by
  cases c <;> first | rfl | cases hc

theorem documents_final_ensure (s : Store) :
    (r.ensure.final (Store.backend others) s).documents = s.documents := by
  refine Program.final_of_makesOnly _ (P := fun c => c.isSetup = true)
    (I := fun t => t.documents = s.documents) ?_ r.ensure ?_ s rfl
  · exact fun c hc t ht => (documents_of_isSetup hc t).trans ht
  · refine r.makesOnly_ensure.mono ?_
    rintro c (rfl | rfl) <;> rfl

/-- A collection that has been made sure of is there. -/
theorem mem_collections_final_ensure (s : Store) :
    r.name ∈ (r.ensure.final (Store.backend others) s).collections := by
  have hcreate : r.ensure.final (Store.backend others) s =
      r.create?.final (Store.backend others) s := by
    rw [ensure, Program.final_bind]
    rcases r.create?.value (Store.backend others) s with e | _ <;> rfl
  rw [hcreate]
  unfold create?
  rw [Program.final_bind, Program.value_perform, Program.final_perform, Store.run_collectionExists]
  by_cases h : r.name ∈ s.collections
  · rw [decide_eq_true h]
    exact h
  · rw [decide_eq_false h]
    exact List.mem_cons_self

section change

variable {identifier : String} {c : Change D}

/-- A change returns what is said of it, whether or not the collection was there. -/
theorem value_change
    (hid : ∀ body, r.Writes c body → body.get? "id" = some (.string identifier)) :
    (r.change identifier c).run.value (Store.backend others) s =
      (r.changeEffect c (s.documents r.name identifier)).1 := by
  rw [← Program.value_silent, silent_change, Program.value_bind, Program.final_silent,
    (actsAs_lookAndCarryOut rfl hid).value _ (mem_collections_final_ensure s),
    documents_final_ensure]

/-- It leaves what is said of it, and changes no other document. -/
theorem documents_final_change
    (hid : ∀ body, r.Writes c body → body.get? "id" = some (.string identifier)) :
    ((r.change identifier c).run.final (Store.backend others) s).documents =
      (s.put r.name identifier (r.changeEffect c (s.documents r.name identifier)).2).documents := by
  rw [← Program.final_silent, silent_change, Program.final_bind, Program.final_silent,
    (actsAs_lookAndCarryOut rfl hid).final _ (mem_collections_final_ensure s), Store.put,
    documents_final_ensure, Store.put]

/-- Making sure of the collection makes no calls about documents. -/
theorem filter_calls_ensure {σ : Type} (b : Backend σ) (state : σ) :
    (r.ensure.calls b state).filter Call.isData = [] := by
  refine Program.filter_calls_of_makesOnly b (r.makesOnly_ensure.mono ?_) state
  rintro c (rfl | rfl) <;> rfl

/-- A change looks its document up and makes the calls of the plan on what it has found. -/
theorem filter_calls_change :
    ((r.change identifier c).run.calls (Store.backend others) s).filter Call.isData =
      .retrieve r.name identifier ::
        (r.plan (s.documents r.name identifier) c).calls r.name identifier := by
  rw [← Program.calls_silent, silent_change, Program.calls_bind, List.filter_append,
    Program.calls_silent, filter_calls_ensure, List.nil_append, lookAndCarryOut,
    Program.calls_call, List.filter_cons_of_pos rfl, calls_carryOut, Plan.filter_calls,
    Store.toOption_run_retrieve, Program.final_silent, documents_final_ensure]

end change

/-! ## The operations of the map -/

/-- What a change is going to do where a document can be read or is absent. -/
theorem plan_delete {seen : Option Json} {found : Option D} (h : r.lookedUp seen = .ok found) :
    r.plan seen .delete = if found.isSome then .write .delete else .stop (.ok none) := by
  rw [plan, h]
  cases found <;> rfl

theorem plan_update {seen : Option Json} {found : Option D} (h : r.lookedUp seen = .ok found)
    {document : D} {body : Json} (hbody : r.codec.encode document = .ok body) :
    r.plan seen (.update document) =
      .write (if found.isSome then .update body else .create body) := by
  rw [plan, h]
  dsimp only
  rw [hbody]

/-- Nothing is found only where there is nothing. -/
theorem eq_none_of_lookedUp {seen : Option Json} (h : r.lookedUp seen = .ok none) :
    seen = none := by
  rcases r.lookedUp_cases seen with ⟨hseen, -⟩ | ⟨e, he⟩ | ⟨body, found, -, -, hfound⟩
  · exact hseen
  · rw [he] at h
    cases h
  · rw [hfound] at h
    cases h

/-- A deletion returns what was there and leaves nothing. -/
theorem changeEffect_delete {held : Option Json} {found : Option D}
    (h : r.lookedUp held = .ok found) : r.changeEffect .delete held = (.ok found, none) := by
  rw [changeEffect, plan_delete h]
  rcases found with _ | found
  · rw [eq_none_of_lookedUp h]
    rfl
  · rcases held with _ | body
    · cases h
    · exact congrArg (·, none) h

/-- An update returns what is read of the new body, and leaves that body. -/
theorem changeEffect_update {held : Option Json} {found : Option D}
    (h : r.lookedUp held = .ok found) {document : D} {body : Json}
    (hbody : r.codec.encode document = .ok body) :
    r.changeEffect (.update document) held = (r.answered (.ok body), some body) := by
  rw [changeEffect, plan_update h hbody]
  rcases found with _ | found
  · rfl
  · rcases held with _ | old
    · cases h
    · rfl

/-- Where a map is represented and one document is changed, the map with that change is. -/
theorem Represents.update {t : Store} {identifier : String} {held : Option Json} {found : Option D}
    (hs : r.Represents s m) (ht : t.documents = (s.put r.name identifier held).documents)
    (h : r.lookedUp held = .ok found) : r.Represents t (Function.update m identifier found) := by
  intro other
  rw [ht, Store.documents_put_of_collection]
  by_cases hother : other = identifier
  · rw [hother, Function.update_self, Function.update_self, h]
  · rw [Function.update_of_ne hother, Function.update_of_ne hother, hs other]

/-- Fetching a document gives what is in its place. -/
theorem value_get_store (identifier : String) :
    (r.get identifier).run.value (Store.backend others) s =
      r.lookedUp (s.documents r.name identifier) := by
  rw [← Program.value_silent, silent_get, Program.value_bind, Program.value_call,
    Store.toOption_run_retrieve, Program.final_silent, documents_final_ensure]
  rfl

theorem simulates_get (hs : r.Represents s m) (identifier : String) :
    r.Simulates others (r.get identifier).run s m (.get identifier) := by
  constructor
  · rw [value_get_store]
    exact hs identifier
  · rw [← Program.calls_silent, silent_get, Program.calls_bind, List.filter_append,
      Program.calls_silent, filter_calls_ensure]
    rfl
  · rw [← Program.final_silent, silent_get, Program.final_bind, Program.final_call,
      Store.state_run_retrieve, Program.final_silent]
    intro other
    rw [Program.final_done, documents_final_ensure]
    exact hs other

theorem simulates_delete (hs : r.Represents s m) (identifier : String) :
    r.Simulates others (r.change identifier .delete).run s m (.delete identifier) := by
  have hid : ∀ body, r.Writes .delete body → body.get? "id" = some (.string identifier) := by
    rintro body ⟨document, hc, -⟩
    cases hc
  constructor
  · rw [value_change hid, changeEffect_delete (hs identifier)]
    rfl
  · rw [filter_calls_change, plan_delete (hs identifier), documentCalls]
    cases (m identifier).isSome <;> rfl
  · refine hs.update (documents_final_change hid) ?_
    rw [changeEffect_delete (hs identifier)]
    rfl

theorem simulates_update
    (hcodec : ∀ document body, r.codec.encode document = .ok body →
      r.codec.decode body = .ok document)
    (hs : r.Represents s m) {identifier : String} {document : D}
    (hcarries : r.Carries (.update identifier document)) :
    r.Simulates others (r.change identifier (.update document)).run s m
      (.update identifier document) := by
  obtain ⟨body, hbody, hbodyid⟩ := hcarries
  have hid : ∀ new, r.Writes (.update document) new →
      new.get? "id" = some (.string identifier) := by
    rintro new ⟨_, hc, hnew⟩
    cases hc
    cases hbody.symm.trans hnew
    exact hbodyid
  have hread : r.answered (.ok body) = .ok (some document) :=
    lookedUp_of_decode (hcodec document body hbody)
  constructor
  · rw [value_change hid, changeEffect_update (hs identifier) hbody]
    exact hread
  · rw [filter_calls_change, plan_update (hs identifier) hbody, documentCalls, hbody]
    cases (m identifier).isSome <;> rfl
  · refine hs.update (documents_final_change hid) ?_
    rw [changeEffect_update (hs identifier) hbody]
    exact hread

/-- **Each operation on a document is that of the map**, as long as documents are read as they were
written. -/
theorem simulates_fulfil
    (hcodec : ∀ document body, r.codec.encode document = .ok body →
      r.codec.decode body = .ok document)
    (hs : r.Represents s m) :
    {request : DocumentRequest D} → r.Carries request →
      r.Simulates others (r.fulfil request) s m request
  | .get identifier, _ => simulates_get hs identifier
  | .update _ _, hcarries => simulates_update hcodec hs hcarries
  | .delete identifier, _ => simulates_delete hs identifier

/-! ## Sequences of operations -/

/-- A sequence of operations begins with the first. -/
theorem mapM_fulfil_cons (request : DocumentRequest D) (rest : List (DocumentRequest D)) :
    (request :: rest).mapM r.fulfil = r.fulfil request >>= fun result =>
      rest.mapM r.fulfil >>= fun results => .done (result :: results) := by
  rw [List.mapM_cons]
  rfl

/-- **A repository is a map of documents over a reliable store.** Let documents be read as they
were written, and let each update be given a document that can be written and has the identifier.
Then in any sequence of operations each returns what the operation on the map does, a document is
created exactly when the map has none at that moment and replaced exactly when it has one, and the
store has the documents of the map in the end. The calls that look for the collection or create it
change no documents. -/
theorem fulfil_eq_documentMap (r : Repository D)
    (hcodec : ∀ document body, r.codec.encode document = .ok body →
      r.codec.decode body = .ok document)
    (others : Backend Store) (requests : List (DocumentRequest D))
    (hcarries : ∀ request ∈ requests, r.Carries request) (s : Store) (m : DocumentMap D)
    (hs : r.Represents s m) :
    (requests.mapM r.fulfil).value (Store.backend others) s =
        (DocumentMap.along DocumentRequest.answer requests m).map .ok ∧
      ((requests.mapM r.fulfil).calls (Store.backend others) s).filter Call.isData =
        (DocumentMap.along r.documentCalls requests m).flatten ∧
      r.Represents ((requests.mapM r.fulfil).final (Store.backend others) s)
        (requests.foldl DocumentRequest.after m) ∧
      ∀ (c : Call) (t : Store), c.isSetup = true →
        ((Store.backend others c).run t).2.documents = t.documents := by
  have hsetup : ∀ (c : Call) (t : Store), c.isSetup = true →
      ((Store.backend others c).run t).2.documents = t.documents :=
    fun c t hc => documents_of_isSetup hc t
  -- that the store has the documents of the map is the invariant that every operation keeps
  induction requests generalizing s m with
  | nil => exact ⟨rfl, rfl, hs, hsetup⟩
  | cons request rest ih =>
      obtain ⟨hrequest, hrest⟩ := List.forall_mem_cons.mp hcarries
      have hfirst : r.Simulates others (r.fulfil request) s m request :=
        simulates_fulfil hcodec hs hrequest
      obtain ⟨hvalue, hcalls, hfinal, -⟩ := ih hrest _ _ hfirst.represents
      rw [mapM_fulfil_cons]
      refine ⟨?_, ?_, ?_, hsetup⟩
      · rw [Program.value_bind, Program.value_bind, hvalue, hfirst.value]
        rfl
      · rw [Program.calls_bind, Program.calls_bind, Program.calls_done, List.append_nil,
          List.filter_append, hcalls, hfirst.calls]
        rfl
      · rw [Program.final_bind, Program.final_bind]
        exact hfinal

/-- Products are kept in an empty store, which does not even have the collection yet. -/
theorem fulfil_eq_documentMap_products :
    let b := Store.backend fun _ => pure (.error .notFound)
    let s : Store := ⟨[], fun _ _ => none⟩
    let shoe := product "1" "shoe"
    let boot := product "1" "boot"
    let p := [.delete "1", .update "1" shoe, .update "1" boot, .get "2", .delete "1", .get "1"].mapM
      products.fulfil
    products.Represents s (fun _ => none) ∧
      p.value b s =
        [.ok none, .ok (some shoe), .ok (some boot), .ok none, .ok (some boot), .ok none] ∧
      (p.calls b s).filter Call.isData =
        [.retrieve "products" "1", .retrieve "products" "1", .create "products" shoe,
          .retrieve "products" "1", .update "products" "1" boot, .retrieve "products" "2",
          .retrieve "products" "1", .delete "products" "1", .retrieve "products" "1"] := by
  intro b s shoe boot p
  have hcarries : ∀ request ∈ ([.delete "1", .update "1" shoe, .update "1" boot, .get "2",
      .delete "1", .get "1"] : List (DocumentRequest Json)), products.Carries request := by
    simp only [List.forall_mem_cons]
    exact ⟨trivial, ⟨shoe, rfl, rfl⟩, ⟨boot, rfl, rfl⟩, trivial, trivial, trivial, nofun⟩
  have hs : products.Represents s (fun _ => none) := fun _ => rfl
  have hcodec : ∀ document body, products.codec.encode document = .ok body →
      products.codec.decode body = .ok document := by
    intro document body h
    cases h
    rfl
  obtain ⟨hvalue, hcalls, -⟩ :=
    fulfil_eq_documentMap products hcodec (fun _ => pure (.error .notFound)) _ hcarries s _ hs
  exact ⟨hs, hvalue, hcalls⟩

end Repository

end CollectionSearch
