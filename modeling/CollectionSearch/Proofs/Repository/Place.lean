import CollectionSearch.Proofs.Repository.Absence

/-!
# The place that an update fills

An update looks for the document of its identifier. If there is one, the new body is put in its
place; if there is none, a document is created, and a store keeps a new document under the
identifier in its body, whatever the update was asked for.

* `Json.identifier?` : the identifier in a body.
* `Repository.placeOf` : the place that an update fills.
* `Repository.KeepsTo` : whether an update has written the document of its identifier and no other.

**Main statements:** `exists_place_of_update` says what a successful update leaves, and
`keepsTo_iff_of_update` exactly when it keeps to its identifier. A second update leaves the store as
the first one did, in any case. `update_writes_another_product` is an update that does not keep to
its identifier.
-/

namespace CollectionSearch

/-- The identifier in a body. -/
def Json.identifier? (body : Json) : Option String := (body.get? "id").bind Json.string?

namespace Repository

variable {D : Type} {r : Repository D} {others : Backend Store} {s t : Store} {identifier : String}

/-! ## Runs in a store -/

/-- What the look-up of an operation finds is what the store had before the operation. -/
theorem toOption_lookUp_store :
    (r.lookUp (Store.backend others) identifier s).toOption = s.documents r.name identifier := by
  rw [lookUp]
  exact (Store.toOption_run_retrieve _ _ _ _).trans (by rw [documents_final_ensure])

/-- A change ends as its plan does, carried out once the collection is there. -/
theorem value_change_store (c : Change D) :
    (r.change identifier c).run.value (Store.backend others) s =
      (r.carryOut identifier (r.plan (s.documents r.name identifier) c)).value
        (Store.backend others) (r.ensure.final (Store.backend others) s) := by
  rw [value_change_eq_value_carryOut, toOption_lookUp_store, Store.state_run_retrieve]

/-- It leaves what its plan does. -/
theorem final_change_store (c : Change D) :
    (r.change identifier c).run.final (Store.backend others) s =
      (r.carryOut identifier (r.plan (s.documents r.name identifier) c)).final
        (Store.backend others) (r.ensure.final (Store.backend others) s) := by
  rw [← Program.final_silent, silent_change, Program.final_bind, Program.final_silent,
    lookAndCarryOut, Program.final_call, Store.state_run_retrieve, Store.toOption_run_retrieve,
    documents_final_ensure]

/-- So does an update. -/
theorem final_update_store (document : D) :
    (r.update identifier document).run.final (Store.backend others) s =
      (r.carryOut identifier (r.plan (s.documents r.name identifier) (.update document))).final
        (Store.backend others) (r.ensure.final (Store.backend others) s) := by
  rw [← final_change_store, run_change_update, Program.final_bind]
  rfl

/-- Where the collection is there, making sure of it changes nothing. -/
theorem final_ensure_of_mem (h : r.name ∈ s.collections) :
    r.ensure.final (Store.backend others) s = s := by
  rw [← Program.final_silent, ← Program.bind_done r.ensure.silent, final_ensure_bind h]
  rfl

/-! ## Writes in a store -/

/-- A planned write ends as its call does. -/
theorem run_carryOut_write {w : DocumentWrite} {o : Except BackendError Json}
    (hvalue : (w.program r.name identifier).value (Store.backend others) s = o)
    (hfinal : (w.program r.name identifier).final (Store.backend others) s = t) :
    (r.carryOut identifier (.write w)).value (Store.backend others) s = r.answered o ∧
      (r.carryOut identifier (.write w)).final (Store.backend others) s = t := by
  rw [carryOut, Program.value_bind, Program.final_bind, hvalue, hfinal]
  exact ⟨rfl, rfl⟩

/-- A document that is there is replaced. -/
theorem run_carryOut_update (body : Json) {old : Json}
    (h : s.documents r.name identifier = some old) :
    (r.carryOut identifier (.write (.update body))).value (Store.backend others) s =
        r.answered (.ok body) ∧
      (r.carryOut identifier (.write (.update body))).final (Store.backend others) s =
        s.put r.name identifier (some body) := by
  apply run_carryOut_write
  · rw [DocumentWrite.program, Program.value_call, Store.run_update, h]
    rfl
  · rw [DocumentWrite.program, Program.final_call, Store.run_update, h]
    rfl

/-- A new document is kept in the place that its body names. -/
theorem run_carryOut_create {body : Json} {place : String} (h : body.identifier? = some place) :
    (r.carryOut identifier (.write (.create body))).value (Store.backend others) s =
        r.answered (.ok body) ∧
      (r.carryOut identifier (.write (.create body))).final (Store.backend others) s =
        s.put r.name place (some body) := by
  rw [Json.identifier?] at h
  apply run_carryOut_write
  · rw [DocumentWrite.program, Program.value_call, Store.run_create, h]
    rfl
  · rw [DocumentWrite.program, Program.final_call, Store.run_create, h]
    rfl

/-- A new document whose body names no place is refused. -/
theorem run_carryOut_create_of_eq_none {body : Json} (h : body.identifier? = none) :
    (r.carryOut identifier (.write (.create body))).value (Store.backend others) s =
        r.answered (.error (.refused "missing id")) ∧
      (r.carryOut identifier (.write (.create body))).final (Store.backend others) s = s := by
  rw [Json.identifier?] at h
  apply run_carryOut_write
  · rw [DocumentWrite.program, Program.value_call, Store.run_create, h]
    rfl
  · rw [DocumentWrite.program, Program.final_call, Store.run_create, h]
    rfl

/-! ## What an update is going to do -/

section plan

variable {seen : Option Json} {document : D}

/-- An update that does not write has failed. -/
theorem exists_error_of_plan_update_eq_stop {result : Except RepositoryError (Option D)}
    (h : r.plan seen (.update document) = .stop result) : ∃ e, result = .error e := by
  rw [plan] at h
  rcases hl : r.lookedUp seen with e | existing <;> rw [hl] at h
  · cases h
    exact ⟨e, rfl⟩
  · dsimp only at h
    rcases hbody : r.codec.encode document with reason | body <;> rw [hbody] at h <;> cases h
    exact ⟨_, rfl⟩

/-- An update that writes creates its document where there was none, and replaces it where there was
one. -/
theorem plan_update_eq_write {w : DocumentWrite} (h : r.plan seen (.update document) = .write w) :
    ∃ body, r.codec.encode document = .ok body ∧
      ((seen = none ∧ w = .create body) ∨ ∃ old, seen = some old ∧ w = .update body) := by
  rcases plan_eq_write h with ⟨hc, -⟩ | ⟨body, ⟨_, hc, hbody⟩, hseen, hw⟩ |
    ⟨body, ⟨_, hc, hbody⟩, hw, old, -, hseen, -⟩ <;> cases hc
  · exact ⟨body, hbody, .inl ⟨hseen, hw⟩⟩
  · exact ⟨body, hbody, .inr ⟨old, hseen, hw⟩⟩

end plan

/-! ## What a successful update leaves -/

/-- The place that an update fills: that of the document which is there, or else the one that the
new body names. -/
def placeOf (identifier : String) (held : Option Json) (body : Json) : Option String :=
  if held.isSome then some identifier else body.identifier?

/-- An answer is a document only if the service answered with a body that can be read. -/
theorem answered_eq_ok_some {o : Except BackendError Json} {found : D}
    (h : r.answered o = .ok (some found)) :
    ∃ body, o = .ok body ∧ r.codec.decode body = .ok found := by
  rcases o with e | body
  · cases h
  · refine ⟨body, rfl, ?_⟩
    rw [answered] at h
    rcases hd : r.codec.decode body with e | found' <;> rw [hd] at h <;> cases h
    rfl

/-- **A successful update fills one place with its body**, and changes nothing else. -/
theorem exists_place_of_update {document stored : D}
    (h : (r.update identifier document).run.value (Store.backend others) s = .ok stored) :
    ∃ body place, r.codec.encode document = .ok body ∧ r.codec.decode body = .ok stored ∧
      placeOf identifier (s.documents r.name identifier) body = some place ∧
      (r.update identifier document).run.final (Store.backend others) s =
        (r.ensure.final (Store.backend others) s).put r.name place (some body) := by
  have hvalue : (r.change identifier (.update document)).run.value (Store.backend others) s =
      .ok (some stored) := by
    rw [← map_value_update, h]
    rfl
  rw [value_change_store] at hvalue
  rw [final_update_store]
  rcases hplan : r.plan (s.documents r.name identifier) (.update document) with result | w
  · obtain ⟨e, rfl⟩ := exists_error_of_plan_update_eq_stop hplan
    rw [hplan] at hvalue
    cases hvalue
  · rw [hplan] at hvalue
    obtain ⟨body, hbody, ⟨hseen, rfl⟩ | ⟨old, hseen, rfl⟩⟩ := plan_update_eq_write hplan
    · rcases hplace : body.identifier? with _ | place
      · rw [(run_carryOut_create_of_eq_none hplace).1] at hvalue
        cases hvalue
      · rw [(run_carryOut_create hplace).1] at hvalue
        obtain ⟨_, ⟨⟩, hread⟩ := answered_eq_ok_some hvalue
        refine ⟨body, place, hbody, hread, ?_, (run_carryOut_create hplace).2⟩
        rw [placeOf, hseen]
        exact hplace
    · have hheld : (r.ensure.final (Store.backend others) s).documents r.name identifier =
          some old := by
        rw [documents_final_ensure, hseen]
      rw [(run_carryOut_update body hheld).1] at hvalue
      obtain ⟨_, ⟨⟩, hread⟩ := answered_eq_ok_some hvalue
      refine ⟨body, identifier, hbody, hread, ?_, (run_carryOut_update body hheld).2⟩
      rw [placeOf, hseen]
      rfl

/-! ## Updating twice -/

section twice

variable (document : D) {body : Json}

/-- An update that finds its own body changes nothing. -/
theorem final_update_of_held (hs : r.name ∈ s.collections)
    (hbody : r.codec.encode document = .ok body)
    (hheld : s.documents r.name identifier = some body) :
    (r.update identifier document).run.final (Store.backend others) s = s := by
  rw [final_update_store, final_ensure_of_mem hs]
  rcases hplan : r.plan (s.documents r.name identifier) (.update document) with result | w
  · rfl
  · obtain ⟨body', hbody', ⟨hseen, -⟩ | ⟨old, -, rfl⟩⟩ := plan_update_eq_write hplan
    · rw [hheld] at hseen
      cases hseen
    · cases hbody.symm.trans hbody'
      rw [(run_carryOut_update body hheld).2]
      exact s.put_eq_self r.name identifier hheld

/-- **Updating twice leaves the store as updating once**, however the updates end. -/
theorem final_final_update :
    (r.update identifier document).run.final (Store.backend others)
        ((r.update identifier document).run.final (Store.backend others) s) =
      (r.update identifier document).run.final (Store.backend others) s := by
  have hmem : r.name ∈ (r.ensure.final (Store.backend others) s).collections :=
    r.mem_collections_final_ensure s
  have hdocuments : (r.ensure.final (Store.backend others) s).documents r.name identifier =
      s.documents r.name identifier := by rw [documents_final_ensure]
  rw [final_update_store (s := s)]
  generalize r.ensure.final (Store.backend others) s = s₁ at hmem hdocuments
  rw [← hdocuments]
  -- from here on the collection is there, so the second update begins with its look-up
  rcases hplan : r.plan (s₁.documents r.name identifier) (.update document) with result | w
  · rw [carryOut, Program.final_done, final_update_store, final_ensure_of_mem hmem, hplan]
    rfl
  · obtain ⟨body, hbody, ⟨hseen, rfl⟩ | ⟨old, hseen, rfl⟩⟩ := plan_update_eq_write hplan
    · rcases hplace : body.identifier? with _ | place
      · rw [(run_carryOut_create_of_eq_none hplace).2, final_update_store,
          final_ensure_of_mem hmem, hplan, (run_carryOut_create_of_eq_none hplace).2]
      · rw [(run_carryOut_create hplace).2]
        by_cases hsame : identifier = place
        · subst hsame
          exact final_update_of_held document hmem hbody (Store.documents_put _ _ _ _)
        · -- the place of the identifier is still empty, so the document is created once more
          have hstill : (s₁.put r.name place (some body)).documents r.name identifier = none := by
            rw [Store.documents_put_of_collection, Function.update_of_ne hsame, hseen]
          rw [final_update_store, final_ensure_of_mem (s := s₁.put r.name place (some body)) hmem,
            hstill, ← hseen, hplan, (run_carryOut_create hplace).2, Store.put_put]
    · rw [(run_carryOut_update body hseen).2]
      exact final_update_of_held document hmem hbody (Store.documents_put _ _ _ _)

end twice

/-! ## Keeping to the identifier -/

/-- Whether an update has written the document of its identifier and no other. -/
structure KeepsTo (r : Repository D) (others : Backend Store) (identifier : String) (s t : Store)
    (stored : D) : Prop where
  /-- The other documents are as they were. -/
  frame : ∀ other, other ≠ identifier → t.documents r.name other = s.documents r.name other
  /-- What the update has returned is found under its identifier. -/
  found : (r.get identifier).run.value (Store.backend others) t = .ok (some stored)

/-- A store in which the place of the identifier has been filled with a readable body. -/
theorem keepsTo_of_put {body : Json} {stored : D} (hread : r.codec.decode body = .ok stored)
    (ht : t.documents = (s.put r.name identifier (some body)).documents) :
    r.KeepsTo others identifier s t stored := by
  constructor
  · intro other hother
    rw [ht, Store.documents_put_of_collection, Function.update_of_ne hother]
  · rw [value_get_store, ht, Store.documents_put]
    exact lookedUp_of_decode hread

/-- A store in which another place has been filled, and that of the identifier is as empty as
before. -/
theorem value_get_of_put_of_ne {body : Json} {place : String} (hne : place ≠ identifier)
    (hempty : s.documents r.name identifier = none)
    (ht : t.documents = (s.put r.name place (some body)).documents) :
    (r.get identifier).run.value (Store.backend others) t = .ok none := by
  rw [value_get_store, ht, Store.documents_put_of_collection, Function.update_of_ne hne.symm,
    hempty]
  rfl

/-- An update fills the place of its identifier exactly if a document is there or the new body has
the identifier. -/
theorem placeOf_eq_some_self_iff {held : Option Json} {body : Json} :
    placeOf identifier held body = some identifier ↔
      held.isSome ∨ body.identifier? = some identifier := by
  rw [placeOf]
  cases held with
  | none => exact (or_iff_right Bool.false_ne_true).symm
  | some old => exact iff_of_true rfl (.inl rfl)

/-- An update that fills another place has found nothing under its identifier. -/
theorem eq_none_of_placeOf {held : Option Json} {body : Json} {place : String}
    (h : placeOf identifier held body = some place) (hne : place ≠ identifier) : held = none := by
  rw [← Option.not_isSome_iff_eq_none]
  intro hheld
  rw [placeOf, if_pos hheld] at h
  exact hne (Option.some.inj h).symm

/-- Filling a place keeps to the identifier exactly if it is the place of the identifier. -/
theorem keepsTo_iff_eq {body : Json} {place : String} {stored : D}
    (hread : r.codec.decode body = .ok stored)
    (hempty : place ≠ identifier → s.documents r.name identifier = none)
    (ht : t.documents = (s.put r.name place (some body)).documents) :
    r.KeepsTo others identifier s t stored ↔ place = identifier := by
  constructor
  · intro h
    by_contra hne
    have hfound := h.found
    rw [value_get_of_put_of_ne hne (hempty hne) ht] at hfound
    cases hfound
  · rintro rfl
    exact keepsTo_of_put hread ht

/-- **A successful update keeps to its identifier exactly if a document was there or the new body
has the identifier.** In any case it fills one place with its body, and no other document changes.
Where it does not keep to its identifier, nothing is found under the identifier afterwards. A second
update, successful or not, leaves the store as the first. -/
theorem keepsTo_iff_of_update (r : Repository D) (others : Backend Store) (s : Store)
    (identifier : String) (document : D) :
    let b := Store.backend others
    let p := (r.update identifier document).run
    let t := p.final b s
    (∀ stored, p.value b s = .ok stored →
      ∃ body place, r.codec.encode document = .ok body ∧
        placeOf identifier (s.documents r.name identifier) body = some place ∧
        t.documents = (s.put r.name place (some body)).documents ∧
        (r.KeepsTo others identifier s t stored ↔
          (s.documents r.name identifier).isSome ∨ body.identifier? = some identifier) ∧
        (¬ r.KeepsTo others identifier s t stored → place ≠ identifier ∧
          (r.get identifier).run.value b t = .ok none)) ∧
      p.final b t = t := by
  intro b p t
  refine ⟨fun stored hstored => ?_, final_final_update document⟩
  obtain ⟨body, place, hbody, hread, hplace, hfinal⟩ := exists_place_of_update hstored
  have ht : t.documents = (s.put r.name place (some body)).documents := by
    refine (congrArg Store.documents hfinal).trans ?_
    rw [Store.put, documents_final_ensure, Store.put]
  have hempty : place ≠ identifier → s.documents r.name identifier = none :=
    eq_none_of_placeOf hplace
  have hiff : r.KeepsTo others identifier s t stored ↔ place = identifier :=
    keepsTo_iff_eq hread hempty ht
  refine ⟨body, place, hbody, hplace, ht, ?_, fun h => ?_⟩
  · rw [hiff, ← placeOf_eq_some_self_iff, hplace, Option.some.injEq]
  · have hne : place ≠ identifier := mt hiff.mpr h
    exact ⟨hne, value_get_of_put_of_ne hne (hempty hne) ht⟩

/-- A product that is there is replaced though its new body has no identifier, and a new one is
created in the place of its identifier. -/
theorem keepsTo_iff_of_update_products :
    let others : Backend Store := fun _ => pure (.error .notFound)
    let b := Store.backend others
    let nameless : Json := .object [("name", .string "clog")]
    let boot := product "2" "boot"
    products.KeepsTo others "1" productStore
        ((products.update "1" nameless).run.final b productStore) nameless ∧
      products.KeepsTo others "2" productStore
        ((products.update "2" boot).run.final b productStore) boot := by
  intro others b nameless boot
  constructor
  · obtain ⟨_, _, -, -, -, hkeeps, -⟩ :=
      (keepsTo_iff_of_update products others productStore "1" nameless).1 nameless rfl
    exact hkeeps.mpr (.inl rfl)
  · obtain ⟨_, _, hbody, -, -, hkeeps, -⟩ :=
      (keepsTo_iff_of_update products others productStore "2" boot).1 boot rfl
    cases hbody
    exact hkeeps.mpr (.inr rfl)

/-- **An update of a product that is not there may write another product**, whose identifier the new
body has. The update succeeds, and nothing is found under the identifier that it was asked for. -/
theorem update_writes_another_product :
    let others : Backend Store := fun _ => pure (.error .notFound)
    let b := Store.backend others
    let boot := product "1" "boot"
    let t := (products.update "2" boot).run.final b productStore
    (products.update "2" boot).run.value b productStore = .ok boot ∧
      productStore.documents "products" "1" = some (product "1" "shoe") ∧
      t.documents "products" "1" = some boot ∧
      (products.get "2").run.value b t = .ok none ∧
      ¬ products.KeepsTo others "2" productStore t boot := by
  intro others b boot t
  have hmissing : (products.get "2").run.value b t = .ok none := rfl
  refine ⟨rfl, rfl, rfl, hmissing, fun h => ?_⟩
  cases hmissing.symm.trans h.found

end Repository

end CollectionSearch
