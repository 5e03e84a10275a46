import CollectionSearch.Proofs.Repository.DocumentMap
import CollectionSearch.Proofs.Repository.Trace

/-!
# Look-ups that fail

A change looks first whether the document is there. Whatever keeps the look-up from succeeding
counts as absence: the service may have said that there is no such document, or may not have been
reached at all. In the latter case the failure is logged, and the change goes on as in the former.

* `Repository.lookUp` : how the look-up of an operation ends.
* `Repository.written` : what an update returns, by the outcome of its write.

**Main statements:** `run_get` takes a look-up apart, signals included, and
`failed_lookUp_counts_as_absence` says what changes do when their look-ups fail, and that they do so
only then. `lookUp_fails_for_stored_product` is a service that cannot be reached for its look-ups.
-/

namespace CollectionSearch.Repository

variable {D σ : Type} (r : Repository D) (b : Backend σ) (identifier : String) (state : σ)

/-! ## Look-ups -/

/-- How the look-up of a document ends, for the state in which an operation begins. -/
def lookUp : Except BackendError Json :=
  ((b (.retrieve r.name identifier)).run (r.ensure.final b state)).1

/-- What a look-up does when it has been answered. -/
def concludeLookUp :
    Except BackendError Json → Program (Except RepositoryError (Option D))
  | .ok body => return r.answered (.ok body)
  | .error .notFound => return .ok none
  | .error e => do
    Program.event (.lookupFailed r.name identifier e.message)
    return .ok none

/-- Fetching a document is making sure of the collection, a single call, and a report if that fails
in a way that was not to be expected. -/
theorem run_get :
    (r.get identifier).run = r.ensure >>= fun _ =>
      Program.perform .retrieve (.retrieve r.name identifier) >>=
        r.concludeLookUp identifier := by
  unfold get
  rw [Action.run_lift_bind]
  refine bind_congr fun _ => ?_
  rw [Action.run_lift_bind]
  refine bind_congr ?_
  rintro ((_ | e | e | e) | body)
  case ok =>
    change (do return some (← Action.decode r.codec.decode body) : Action _).run = _
    rw [Action.run_decode_some]
    rfl
  all_goals rfl

variable {r b identifier state}

/-- A failure that was not to be expected is logged. -/
theorem mem_steps_get {e : BackendError} (he : r.lookUp b identifier state = .error e)
    (hne : e ≠ .notFound) :
    .signal (.event (.lookupFailed r.name identifier e.message)) ∈
      (r.get identifier).run.steps b state := by
  rw [run_get, Program.steps_bind, Program.steps_bind, Program.value_perform]
  change ((b _).run _).1 = _ at he
  rw [he]
  refine List.mem_append_right _ (List.mem_append_right _ ?_)
  cases e with
  | notFound => exact absurd rfl hne
  | _ => exact List.mem_cons_self

/-- So it is by what begins with the look-up. -/
theorem mem_steps_get_bind {β : Type} {e : BackendError}
    (he : r.lookUp b identifier state = .error e) (hne : e ≠ .notFound) (k : Option D → Action β) :
    .signal (.event (.lookupFailed r.name identifier e.message)) ∈
      (r.get identifier >>= k).run.steps b state := by
  rw [ExceptT.run_bind, Program.steps_bind]
  exact List.mem_append_left _ (mem_steps_get he hne)

/-! ## Changes -/

/-- A change makes its calls after the look-up as planned. -/
theorem exchanges_change (c : Change D) :
    (r.change identifier c).run.exchanges b state =
      r.ensure.exchanges b state ++
        ⟨.retrieve r.name identifier, r.lookUp b identifier state⟩ ::
          (r.carryOut identifier (r.plan (r.lookUp b identifier state).toOption c)).exchanges b
            ((b (.retrieve r.name identifier)).run (r.ensure.final b state)).2 := by
  rw [← Program.exchanges_silent, silent_change, Program.exchanges_bind, Program.exchanges_silent,
    Program.final_silent]
  rfl

/-- It returns what carrying out the plan gives. -/
theorem value_change_eq_value_carryOut (c : Change D) :
    (r.change identifier c).run.value b state =
      (r.carryOut identifier (r.plan (r.lookUp b identifier state).toOption c)).value b
        ((b (.retrieve r.name identifier)).run (r.ensure.final b state)).2 := by
  rw [← Program.value_silent, silent_change, Program.value_bind, Program.final_silent]
  rfl

/-- Its calls are the look-up and those of the plan. -/
theorem calls_change (c : Change D) :
    (r.change identifier c).run.calls b state =
      r.ensure.calls b state ++
        .retrieve r.name identifier ::
          (r.plan (r.lookUp b identifier state).toOption c).calls r.name identifier := by
  rw [← Program.calls_silent, silent_change, Program.calls_bind, Program.calls_silent,
    lookAndCarryOut, Program.calls_call, calls_carryOut, Program.final_silent]
  rfl

/-- What was written is never taken for absence. -/
theorem answered_ne_none (o : Except BackendError Json) : r.answered o ≠ .ok none := by
  intro h
  rcases o with e | body
  · cases h
  · rw [answered] at h
    cases hd : r.codec.decode body <;> rw [hd] at h <;> cases h

/-- A deletion returns nothing exactly when its look-up has failed. -/
theorem value_delete_eq_none_iff :
    (r.delete identifier).run.value b state = .ok none ↔
      ∃ e, r.lookUp b identifier state = .error e := by
  change (r.change identifier .delete).run.value b state = _ ↔ _
  rw [value_change_eq_value_carryOut]
  rcases r.lookUp b identifier state with e | body
  · exact iff_of_true rfl ⟨e, rfl⟩
  · have hfound : ¬ ∃ e, (.ok body : Except BackendError Json) = .error e := by
      rintro ⟨_, h⟩
      cases h
    refine iff_of_false ?_ hfound
    rw [Except.toOption, plan]
    rcases r.lookedUp_cases (some body) with ⟨h, -⟩ | ⟨e, hl⟩ | ⟨_, found, -, -, hl⟩
    · cases h
    · rw [hl]
      intro h
      cases h
    · rw [hl, carryOut, Program.value_bind]
      exact answered_ne_none _

/-- An update that has found nothing creates its document. -/
theorem plan_update_of_encode {document : D} {body : Json}
    (h : r.codec.encode document = .ok body) :
    r.plan none (.update document) = .write (.create body) :=
  plan_update (rfl : r.lookedUp none = .ok none) h

/-- An update that has nothing to write ends after its look-up. -/
theorem plan_update_of_encode_error {document : D} {reason : String}
    (h : r.codec.encode document = .error reason) (seen : Option Json) :
    r.plan seen (.update document) =
      .stop ((r.lookedUp seen).bind fun _ => .error (.backend (.serialization reason))) := by
  rw [plan, h]
  cases r.lookedUp seen <;> rfl

/-- An update creates its document exactly when its look-up has failed and there is something to
write. -/
theorem create_mem_calls_plan_iff {document : D} {collection : String} {body : Json}
    (o : Except BackendError Json) :
    .create collection body ∈ (r.plan o.toOption (.update document)).calls r.name identifier ↔
      (∃ e, o = .error e) ∧ r.codec.encode document = .ok body ∧ collection = r.name := by
  rcases o with e | old
  · rcases hnew : r.codec.encode document with reason | new
    · rw [Except.toOption, plan_update_of_encode_error hnew]
      refine iff_of_false List.not_mem_nil ?_
      rintro ⟨-, h, -⟩
      cases h
    · rw [Except.toOption, plan_update_of_encode hnew]
      change _ ∈ [Call.create r.name new] ↔ _
      rw [List.mem_singleton, Call.create.injEq, Except.ok.injEq, @eq_comm _ new, and_comm]
      exact (and_iff_right ⟨e, rfl⟩).symm
  · have hfound : ¬ ∃ e, (.ok old : Except BackendError Json) = .error e := by
      rintro ⟨_, h⟩
      cases h
    refine iff_of_false ?_ fun h => hfound h.1
    rcases hp : r.plan (Except.toOption (.ok old)) (.update document) with result | w
    · exact List.not_mem_nil
    · rcases plan_eq_write hp with ⟨h, -⟩ | ⟨_, -, h, -⟩ | ⟨new, -, rfl, -⟩
      · cases h
      · cases h
      · rw [Plan.calls, List.mem_singleton]
        intro h
        cases h

/-- What an update returns, by the outcome of its write. -/
def written (r : Repository D) : Except BackendError Json → Except RepositoryError D
  | .ok body => (r.codec.decode body).mapError .undecodable
  | .error e => .error (.backend e)

theorem map_written (o : Except BackendError Json) : (r.written o).map some = r.answered o := by
  rcases o with e | body
  · rfl
  · rw [written, answered]
    cases r.codec.decode body <;> rfl

/-- As a change, an update only wraps its result. -/
theorem run_change_update (document : D) :
    (r.change identifier (.update document)).run =
      (r.update identifier document).run >>= fun x => .done (x.map some) := by
  change (some <$> r.update identifier document).run = _
  rw [ExceptT.run_map, map_eq_pure_bind]
  rfl

theorem exchanges_update (document : D) :
    (r.update identifier document).run.exchanges b state =
      (r.change identifier (.update document)).run.exchanges b state := by
  rw [run_change_update, Program.exchanges_bind]
  exact (List.append_nil _).symm

theorem calls_update (document : D) :
    (r.update identifier document).run.calls b state =
      (r.change identifier (.update document)).run.calls b state := by
  rw [← Program.map_call_exchanges, exchanges_update, Program.map_call_exchanges]

theorem map_value_update (document : D) :
    ((r.update identifier document).run.value b state).map some =
      (r.change identifier (.update document)).run.value b state := by
  rw [run_change_update, Program.value_bind]
  rfl

/-- Wrapping results keeps them apart. -/
theorem map_some_injective :
    Function.Injective
      (Except.map some : Except RepositoryError D → Except RepositoryError (Option D)) := by
  rintro (e | x) (e' | y) h <;> cases h <;> rfl

variable (b identifier state) in
/-- An update that has nothing to write makes no call after its look-up, and returns why, or why
what it has found cannot be read. -/
theorem update_of_encode_error {document : D} {reason : String}
    (h : r.codec.encode document = .error reason) :
    (r.update identifier document).run.exchanges b state =
        r.ensure.exchanges b state ++
          [⟨.retrieve r.name identifier, r.lookUp b identifier state⟩] ∧
      (r.update identifier document).run.value b state =
        (r.lookedUp (r.lookUp b identifier state).toOption).bind fun _ =>
          .error (.backend (.serialization reason)) := by
  constructor
  · rw [exchanges_update, exchanges_change, plan_update_of_encode_error h]
    rfl
  · apply map_some_injective
    rw [map_value_update, value_change_eq_value_carryOut, plan_update_of_encode_error h]
    cases r.lookedUp (r.lookUp b identifier state).toOption <;> rfl

/-! ## Failed look-ups -/

section failed

variable {e : BackendError} (he : r.lookUp b identifier state = .error e) {document : D}

include he

/-- A deletion makes no call after a failed look-up. -/
theorem exchanges_delete_of_failed :
    (r.delete identifier).run.exchanges b state =
      r.ensure.exchanges b state ++ [⟨.retrieve r.name identifier, .error e⟩] := by
  change (r.change identifier .delete).run.exchanges b state = _
  rw [exchanges_change, he]
  rfl

/-- Neither does an update that has nothing to write. -/
theorem update_of_failed_of_encode_error {reason : String}
    (hreason : r.codec.encode document = .error reason) :
    (r.update identifier document).run.exchanges b state =
        r.ensure.exchanges b state ++ [⟨.retrieve r.name identifier, .error e⟩] ∧
      (r.update identifier document).run.value b state =
        .error (.backend (.serialization reason)) := by
  have hrun := update_of_encode_error b identifier state hreason
  rw [he] at hrun
  exact hrun

/-- Any other update creates its document. -/
theorem update_of_failed_of_encode {body : Json} (hbody : r.codec.encode document = .ok body) :
    ∃ o, (r.update identifier document).run.exchanges b state =
        r.ensure.exchanges b state ++
          [⟨.retrieve r.name identifier, .error e⟩, ⟨.create r.name body, o⟩] ∧
      (r.update identifier document).run.value b state = r.written o := by
  let after := ((b (.retrieve r.name identifier)).run (r.ensure.final b state)).2
  refine ⟨((b (.create r.name body)).run after).1, ?_, ?_⟩
  · rw [exchanges_update, exchanges_change, he, Except.toOption, plan_update_of_encode hbody]
    rfl
  · apply map_some_injective
    rw [map_value_update, value_change_eq_value_carryOut, he, Except.toOption,
      plan_update_of_encode hbody, map_written]
    rfl

end failed

variable (r b identifier state) in
/-- **A look-up that fails counts as absence, whatever the reason.** A deletion returns nothing
exactly when its look-up has failed, and an update creates a document exactly when its look-up has
failed and the document can be written. After a failed look-up a deletion makes no further call, and
an update makes only the call that creates the document and returns what that gives. The failure is
logged unless the service has said that there is no such document. -/
theorem failed_lookUp_counts_as_absence (document : D) :
    ((r.delete identifier).run.value b state = .ok none ↔
        ∃ e, r.lookUp b identifier state = .error e) ∧
      (∀ collection body,
        .create collection body ∈ (r.update identifier document).run.calls b state ↔
          (∃ e, r.lookUp b identifier state = .error e) ∧ r.codec.encode document = .ok body ∧
            collection = r.name) ∧
      (∀ x ∈ r.ensure.exchanges b state, r.IsSetup x.call) ∧
      ∀ e, r.lookUp b identifier state = .error e →
        (r.delete identifier).run.exchanges b state =
          r.ensure.exchanges b state ++ [⟨.retrieve r.name identifier, .error e⟩] ∧
        (∀ reason, r.codec.encode document = .error reason →
          (r.update identifier document).run.exchanges b state =
              r.ensure.exchanges b state ++ [⟨.retrieve r.name identifier, .error e⟩] ∧
            (r.update identifier document).run.value b state =
              .error (.backend (.serialization reason))) ∧
        (∀ body, r.codec.encode document = .ok body →
          ∃ o, (r.update identifier document).run.exchanges b state =
              r.ensure.exchanges b state ++
                [⟨.retrieve r.name identifier, .error e⟩, ⟨.create r.name body, o⟩] ∧
            (r.update identifier document).run.value b state = r.written o) ∧
        (e ≠ .notFound →
          .signal (.event (.lookupFailed r.name identifier e.message)) ∈
              (r.delete identifier).run.steps b state ∧
            .signal (.event (.lookupFailed r.name identifier e.message)) ∈
              (r.update identifier document).run.steps b state) := by
  refine ⟨value_delete_eq_none_iff, ?_, ?_, ?_⟩
  · intro collection body
    have hensure : .create collection body ∉ r.ensure.calls b state := by
      intro h
      rcases r.isSetup_of_mem_calls_ensure b state _ h with h | h <;> cases h
    have hretrieve : Call.create collection body ≠ .retrieve r.name identifier := by
      intro h
      cases h
    rw [calls_update, calls_change, List.mem_append, or_iff_right hensure, List.mem_cons,
      or_iff_right hretrieve]
    exact create_mem_calls_plan_iff _
  · intro x hx
    refine r.isSetup_of_mem_calls_ensure b state x.call ?_
    rw [← Program.map_call_exchanges]
    exact List.mem_map_of_mem hx
  · intro e he
    refine ⟨exchanges_delete_of_failed he, ?_, ?_, ?_⟩
    · exact fun reason hreason => update_of_failed_of_encode_error he hreason
    · exact fun body hbody => update_of_failed_of_encode he hbody
    · exact fun hne => ⟨mem_steps_get_bind he hne _, mem_steps_get_bind he hne _⟩

/-- A reliable store that cannot be reached for look-ups. -/
def unreachableSample : Backend Store
  | .retrieve _ _ => pure (.error (.connection "refused"))
  | c => Store.backend (fun _ => pure (.error .notFound)) c

/-- An update creates what it could not look up. -/
theorem failed_lookUp_counts_as_absence_products :
    let boot := product "2" "boot"
    products.lookUp unreachableSample "2" productStore = .error (.connection "refused") ∧
      products.codec.encode boot = .ok boot ∧
      (∃ o, (products.update "2" boot).run.exchanges unreachableSample productStore =
          products.ensure.exchanges unreachableSample productStore ++
            [⟨.retrieve "products" "2", .error (.connection "refused")⟩,
              ⟨.create "products" boot, o⟩] ∧
        (products.update "2" boot).run.value unreachableSample productStore =
          products.written o) ∧
      .signal (.event (.lookupFailed "products" "2" "Connection error: refused")) ∈
        (products.update "2" boot).run.steps unreachableSample productStore := by
  intro boot
  obtain ⟨-, -, -, hfailed⟩ :=
    failed_lookUp_counts_as_absence products unreachableSample "2" productStore boot
  obtain ⟨-, -, hcreated, hlogged⟩ := hfailed (.connection "refused") rfl
  have hreached : (.connection "refused" : BackendError) ≠ .notFound := by
    intro h
    cases h
  exact ⟨rfl, rfl, hcreated boot rfl, (hlogged hreached).2⟩

/-- **A stored product is taken for absent when its look-up fails in another way** than by being
told that there is no such document. A deletion returns nothing and leaves it where it is, and an
update creates it once more. -/
theorem lookUp_fails_for_stored_product :
    let boot := product "1" "boot"
    productStore.documents "products" "1" = some (product "1" "shoe") ∧
      products.lookUp unreachableSample "1" productStore = .error (.connection "refused") ∧
      (products.delete "1").run.value unreachableSample productStore = .ok none ∧
      (products.delete "1").run.value unreachableSample productStore ≠
        .error (.backend (.connection "refused")) ∧
      (products.update "1" boot).run.calls unreachableSample productStore =
        [.collectionExists "products", .retrieve "products" "1", .create "products" boot] ∧
      (products.update "1" boot).run.value unreachableSample productStore = .ok boot := by
  refine ⟨rfl, rfl, rfl, ?_, rfl, rfl⟩
  intro h
  cases h

end CollectionSearch.Repository
