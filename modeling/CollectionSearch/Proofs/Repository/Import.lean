import CollectionSearch.Proofs.Except
import CollectionSearch.Proofs.Repository.Absence

/-!
# Documents that cannot be written

Documents are written as JSON before any of them is sent. An import sends all of them in one call
or, if one cannot be written, none; an update whose document cannot be written stops after its
look-up.

* `Repository.Writable` : whether a document can be written.
* `Repository.importWritten` : what an import does with what was written.

**Main statements:** `silent_importDocuments` takes an import apart into the setting up of the
collection, the writing of the documents and the call, and `imported_whole_or_not_at_all` says what
imports and updates do by which documents can be written.
-/

namespace CollectionSearch

/-- What is there already for each item of a list is there for the list. -/
theorem Action.mapM_ofExcept {ε α β : Type} (wrap : ε → RepositoryError) (f : α → Except ε β)
    (l : List α) :
    l.mapM (fun a => Action.ofExcept wrap (f a)) = Action.ofExcept wrap (l.mapM f) := by
  induction l with
  | nil => rfl
  | cons a rest ih =>
      rw [List.mapM_cons, ih]
      rcases h : f a with e | b
      · rw [mapM_cons_of_error h]
        rfl
      · rw [mapM_cons_of_ok h]
        cases rest.mapM f <;> rfl

namespace Repository

variable {D σ : Type} (r : Repository D)

/-- Whether a document can be written. -/
def Writable (document : D) : Prop := ∃ body, r.codec.encode document = .ok body

/-! ## Imports -/

/-- What an import does when the documents have been written, or one of them could not be. -/
def importWritten :
    Except String (List Json) → Program (Except RepositoryError (List ImportResult))
  | .error reason => .done (.error (.backend (.serialization reason)))
  | .ok bodies =>
    .call (.importDocuments r.name bodies r.config.importOptions) fun o =>
      .done (o.mapError .backend)

/-- **An import makes sure of the collection, writes all documents, and sends them if that has
succeeded.** -/
theorem silent_importDocuments (documents : List D) :
    (r.importDocuments documents).run.silent =
      r.ensure.silent >>= fun _ => r.importWritten (documents.mapM r.codec.encode) := by
  unfold importDocuments
  rw [Action.run_lift_bind, Program.silent_bind]
  refine bind_congr fun _ => ?_
  have hbodies : documents.mapM (Action.encode r.codec) =
      Action.ofExcept (fun reason => .backend (.serialization reason))
        (documents.mapM r.codec.encode) := Action.mapM_ofExcept _ r.codec.encode documents
  rw [hbodies, Action.run_ofExcept_bind]
  rcases documents.mapM r.codec.encode with reason | bodies
  · rfl
  · refine (Program.silent_timed _ _).trans (congrArg (Program.call _) (funext fun o => ?_))
    cases o <;> rfl

section runs

variable (b : Backend σ) (state : σ) {documents : List D}

/-- Documents that can all be written are sent in one call. -/
theorem exists_prepares_importDocuments (h : ∀ d ∈ documents, r.Writable d) :
    ∃ bodies setup outcome,
      List.Forall₂ (fun d body => r.codec.encode d = .ok body) documents bodies ∧
      r.Prepares setup ∧
      (r.importDocuments documents).run.exchanges b state =
        setup ++ [⟨.importDocuments r.name bodies r.config.importOptions, outcome⟩] ∧
      (r.importDocuments documents).run.value b state = outcome.mapError .backend := by
  obtain ⟨bodies, hbodies⟩ := exists_mapM_eq_ok_iff.mpr h
  have hsilent := r.silent_importDocuments documents
  rw [hbodies] at hsilent
  obtain ⟨setup, outcome, hrun⟩ := r.exists_prepares_of_silent_eq hsilent b state
  exact ⟨bodies, setup, outcome, mapM_eq_ok_iff_forall₂.mp hbodies, hrun⟩

/-- If one of them cannot be written nothing is sent. -/
theorem importDocuments_of_mapM_eq_error {reason : String}
    (h : documents.mapM r.codec.encode = .error reason) :
    r.Prepares ((r.importDocuments documents).run.exchanges b state) ∧
      (r.importDocuments documents).run.value b state =
        .error (.backend (.serialization reason)) := by
  have hsilent := r.silent_importDocuments documents
  rw [h] at hsilent
  have hnothing : ∀ t, (r.importWritten (.error reason)).exchanges b t = [] := fun _ => rfl
  constructor
  · rw [← Program.exchanges_silent, hsilent, Program.exchanges_bind, Program.exchanges_silent,
      hnothing, List.append_nil]
    exact r.prepares_ensure b state
  · rw [← Program.value_silent, hsilent, Program.value_bind]
    rfl

/-- Documents are sent exactly if all of them can be written. -/
theorem exists_import_call_iff :
    (∃ c ∈ (r.importDocuments documents).run.calls b state, c.operation = .importDocuments) ↔
      ∀ d ∈ documents, r.Writable d := by
  rw [← Program.map_call_exchanges]
  constructor
  · rintro ⟨_, hc, hop⟩
    obtain ⟨x, hx, rfl⟩ := List.mem_map.mp hc
    rcases hmapM : documents.mapM r.codec.encode with reason | bodies
    · have hsetup := (r.importDocuments_of_mapM_eq_error b state hmapM).1.isSetup x hx
      rcases hsetup with h | h <;> rw [h] at hop <;> cases hop
    · exact exists_mapM_eq_ok_iff.mp ⟨bodies, hmapM⟩
  · intro h
    obtain ⟨bodies, setup, outcome, -, -, hexchanges, -⟩ :=
      r.exists_prepares_importDocuments b state h
    rw [hexchanges]
    exact ⟨_, List.mem_map_of_mem (List.mem_append_right _ (List.mem_singleton_self _)), rfl⟩

/-- **All documents are imported, or nothing is written.** An import whose documents can all be
written makes one call with all of them, written in order, and returns what that gives. It makes no
such call exactly if some document cannot be written, and then returns why the first of these
cannot. An update whose document cannot be written makes no call after its look-up. This does not
depend on what the service answers. -/
theorem imported_whole_or_not_at_all (documents : List D) (identifier : String) (document : D) :
    ((∀ d ∈ documents, r.Writable d) →
      ∃ bodies setup outcome,
        List.Forall₂ (fun d body => r.codec.encode d = .ok body) documents bodies ∧
        r.Prepares setup ∧
        (r.importDocuments documents).run.exchanges b state =
          setup ++ [⟨.importDocuments r.name bodies r.config.importOptions, outcome⟩] ∧
        (r.importDocuments documents).run.value b state = outcome.mapError .backend) ∧
    (∀ before d after reason, documents = before ++ d :: after →
      (∀ x ∈ before, r.Writable x) → r.codec.encode d = .error reason →
        r.Prepares ((r.importDocuments documents).run.exchanges b state) ∧
        (r.importDocuments documents).run.value b state =
          .error (.backend (.serialization reason))) ∧
    ((∃ c ∈ (r.importDocuments documents).run.calls b state, c.operation = .importDocuments) ↔
      ∀ d ∈ documents, r.Writable d) ∧
    ∀ reason, r.codec.encode document = .error reason →
      ∃ setup outcome, r.Prepares setup ∧
        (r.update identifier document).run.exchanges b state =
          setup ++ [⟨.retrieve r.name identifier, outcome⟩] ∧
        (r.update identifier document).run.value b state =
          (r.lookedUp outcome.toOption).bind fun _ =>
            .error (.backend (.serialization reason)) := by
  refine ⟨?_, ?_, ?_, ?_⟩
  · exact r.exists_prepares_importDocuments b state
  · intro before d after reason hdocuments hbefore hd
    have hmapM : documents.mapM r.codec.encode = .error reason :=
      mapM_eq_error_iff.mpr ⟨before, d, after, hdocuments, hd, hbefore⟩
    exact r.importDocuments_of_mapM_eq_error b state hmapM
  · exact r.exists_import_call_iff b state
  · intro reason hreason
    exact ⟨_, _, r.prepares_ensure b state, update_of_encode_error b identifier state hreason⟩

end runs

/-- Products of which each is there as it is written, or with the reason why it cannot be. -/
def drafts : Repository (Except String Json) :=
  ⟨products.schema, {}, ⟨id, fun j => .ok (.ok j)⟩⟩

/-- Two products are imported together. Among four of which the second and the last cannot be
written the second is reported, and none is sent. -/
theorem imported_whole_or_not_at_all_products :
    let shoe := product "1" "shoe"
    let boot := product "2" "boot"
    let good : List (Except String Json) := [.ok shoe, .ok boot]
    let mixed : List (Except String Json) :=
      [.ok shoe, .error "key must be a string", .ok boot, .error "number out of range"]
    (∃ setup outcome, drafts.Prepares setup ∧
      (drafts.importDocuments good).run.exchanges unreachableSample productStore =
        setup ++ [⟨.importDocuments "products" [shoe, boot] {}, outcome⟩] ∧
      (drafts.importDocuments good).run.value unreachableSample productStore =
        outcome.mapError .backend) ∧
    drafts.Prepares ((drafts.importDocuments mixed).run.exchanges unreachableSample productStore) ∧
    (drafts.importDocuments mixed).run.value unreachableSample productStore =
      .error (.backend (.serialization "key must be a string")) ∧
    ∃ setup outcome, drafts.Prepares setup ∧
      (drafts.update "1" (.error "key must be a string")).run.exchanges unreachableSample
        productStore = setup ++ [⟨.retrieve "products" "1", outcome⟩] := by
  intro shoe boot good mixed
  obtain ⟨hgood, -, -, -⟩ := drafts.imported_whole_or_not_at_all unreachableSample productStore
    good "1" (.ok shoe)
  obtain ⟨-, hmixed, -, hupdate⟩ := drafts.imported_whole_or_not_at_all unreachableSample
    productStore mixed "1" (.error "key must be a string")
  have hwritable : ∀ d ∈ good, drafts.Writable d := by
    rw [List.forall_mem_cons, List.forall_mem_singleton]
    exact ⟨⟨shoe, rfl⟩, ⟨boot, rfl⟩⟩
  obtain ⟨bodies, setup, outcome, hbodies, hsetup, hexchanges, hvalue⟩ := hgood hwritable
  obtain rfl : [shoe, boot] = bodies := by
    have hmapM := mapM_eq_ok_iff_forall₂.mpr hbodies
    cases hmapM
    rfl
  obtain ⟨hprepares, hreported⟩ := hmixed [.ok shoe] _ _ _ rfl
    (List.forall_mem_singleton.mpr ⟨shoe, rfl⟩) rfl
  obtain ⟨setup', outcome', hsetup', hlooked, -⟩ := hupdate _ rfl
  exact ⟨⟨setup, outcome, hsetup, hexchanges, hvalue⟩, hprepares, hreported, setup', outcome',
    hsetup', hlooked⟩

end Repository
end CollectionSearch
