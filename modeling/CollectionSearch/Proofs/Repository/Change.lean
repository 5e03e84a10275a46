import CollectionSearch.Proofs.Repository.Store

/-!
# Changes of a document

A deletion or an update looks first whether the document is there, makes a plan on what it has
found, and carries the plan out with one call at most.

* `Change`, `Repository.change` : the operations.
* `Plan`, `Repository.plan`, `DocumentWrite` : what a change is going to do, by what it has found.
* `Repository.changeEffect` : what a change does to a document when nothing comes between its calls.

**Main statements:** `silent_change` takes a change apart into look-up, plan and write,
`plan_eq_write` lists the writes, and `actsAs_change` says that in a reliable store a change does
what `changeEffect` says. It never complains that the document is absent
(`changeEffect_ne_notFound`).
-/

namespace CollectionSearch

/-! ## Changes -/

/-- A change of a document. -/
inductive Change (D : Type) where
  /-- The document is deleted. -/
  | delete
  /-- The document is replaced, or created if there is none. -/
  | update (document : D)

/-- A call that writes a document. -/
inductive DocumentWrite where
  /-- Deletes the document. -/
  | delete
  /-- Replaces the document. -/
  | update (body : Json)
  /-- Creates the document. -/
  | create (body : Json)

/-- What a change does after its look-up. -/
inductive Plan (D : Type) where
  /-- It ends. -/
  | stop (result : Except RepositoryError (Option D))
  /-- It writes. -/
  | write (w : DocumentWrite)

namespace DocumentWrite

/-- The call of a write. -/
def program (collection identifier : String) : DocumentWrite → Program (Except BackendError Json)
  | delete => .call (.delete collection identifier) .done
  | update body => .call (.update collection identifier body) .done
  | create body => .call (.create collection body) .done

/-- What a write does in the place of the document: its outcome and what is there then. -/
def effect : DocumentWrite → Option Json → Except BackendError Json × Option Json
  | delete, some body => (.ok body, none)
  | delete, none => (.error .notFound, none)
  | update body, some _ => (.ok body, some body)
  | update _, none => (.error .notFound, none)
  | create body, _ => (.ok body, some body)

end DocumentWrite

namespace Repository

variable {D : Type} (r : Repository D)

/-- Changes a document. An update returns the new document, a deletion the old one if there was
one. -/
def change (identifier : String) : Change D → Action (Option D)
  | .delete => r.delete identifier
  | .update document => some <$> r.update identifier document

/-- What a change ends with, by the outcome of its write. -/
def answered : Except BackendError Json → Except RepositoryError (Option D)
  | .ok body => ((r.codec.decode body).map some).mapError .undecodable
  | .error e => .error (.backend e)

/-- What a look-up ends with, by the document that the service has. -/
def lookedUp : Option Json → Except RepositoryError (Option D)
  | some body => r.answered (.ok body)
  | none => .ok none

/-- What a change is going to do, by the document that its look-up has found. -/
def plan (seen : Option Json) : Change D → Plan D
  | .delete =>
    match r.lookedUp seen with
    | .ok (some _) => .write .delete
    | result => .stop result
  | .update document =>
    match r.lookedUp seen with
    | .error e => .stop (.error e)
    | .ok existing =>
      match r.codec.encode document with
      | .error reason => .stop (.error (.backend (.serialization reason)))
      | .ok body => .write (if existing.isSome then .update body else .create body)

/-- Carries a plan out. -/
def carryOut (identifier : String) : Plan D → Program (Except RepositoryError (Option D))
  | .stop result => .done result
  | .write w => w.program r.name identifier >>= fun o => .done (r.answered o)

/-- What a plan does in the place of the document: the result and what is there then. -/
def planEffect (p : Plan D) (held : Option Json) :
    Except RepositoryError (Option D) × Option Json :=
  match p with
  | .stop result => (result, held)
  | .write w => (r.answered (w.effect held).1, (w.effect held).2)

/-- A look-up, and a plan made and carried out on what it has found. -/
def lookAndCarryOut (identifier : String) (c : Change D) :
    Program (Except RepositoryError (Option D)) :=
  .call (.retrieve r.name identifier) fun o => r.carryOut identifier (r.plan o.toOption c)

/-! ## A change is look-up, plan and write -/

/-- Without signals, a look-up makes sure of the collection and fetches the document. -/
theorem silent_get (identifier : String) :
    (r.get identifier).run.silent = r.ensure.silent >>= fun _ =>
      .call (.retrieve r.name identifier) fun o => .done (r.lookedUp o.toOption) := by
  unfold get
  rw [Action.run_lift_bind, Program.silent_bind]
  refine bind_congr fun _ => ?_
  rw [Action.run_lift_bind, Program.silent_bind, Program.silent_perform, Program.call_bind]
  refine congrArg (Program.call _) (funext fun o => ?_)
  rw [Program.done_bind]
  rcases o with (_ | e | e | e) | body
  case ok =>
    change (do return some (← Action.decode r.codec.decode body) : Action _).run.silent = _
    rw [Action.run_decode_some]
    rfl
  all_goals rfl

/-- What is done after a look-up depends on what was found. -/
theorem silent_get_bind {β : Type} (identifier : String) (k : Option D → Action β) :
    (r.get identifier >>= k).run.silent = r.ensure.silent >>= fun _ =>
      .call (.retrieve r.name identifier) fun o =>
        match r.lookedUp o.toOption with
        | .ok existing => (k existing).run.silent
        | .error e => .done (.error e) := by
  rw [ExceptT.run_bind, Program.silent_bind, silent_get, bind_assoc]
  refine bind_congr fun _ => ?_
  rw [Program.call_bind]
  refine congrArg (Program.call _) (funext fun o => ?_)
  rw [Program.done_bind]
  rcases r.lookedUp o.toOption with e | existing <;> rfl

/-- What a deletion does when it writes. -/
theorem silent_delete_write (identifier : String) :
    (Action.timed .delete do
      let body ← Action.perform .delete (.delete r.name identifier)
      return some (← Action.decode r.codec.decode body)).run.silent =
        r.carryOut identifier (.write .delete) := by
  refine (Program.silent_timed _ _).trans (congrArg (Program.call _) (funext fun o => ?_))
  rcases o with e | body
  · rfl
  · change (do return some (← Action.decode r.codec.decode body) : Action _).run.silent = _
    rw [Action.run_decode_some]
    rfl

/-- What an update does when it writes. -/
theorem silent_update_write (identifier : String) (present : Bool) (body : Json) :
    (some <$> Action.timed .upsert do
      Action.decode r.codec.decode (← r.write identifier present body)).run.silent =
        r.carryOut identifier (.write (if present then .update body else .create body)) := by
  have hdecode (o : Except BackendError Json) :
      (some <$> Action.timed .upsert (ExceptT.mk (pure (o.mapError .backend)) >>=
        Action.decode r.codec.decode)).run.silent = .done (r.answered o) := by
    rcases o with e | body
    · rfl
    · change (some <$> Action.timed .upsert (Action.decode r.codec.decode body)).run.silent = _
      rw [Action.decode, Action.ofExcept, answered]
      cases r.codec.decode body <;> rfl
  cases present
  · exact congrArg (Program.call _) (funext hdecode)
  · exact congrArg (Program.call _) (funext hdecode)

/-- **A change makes sure of the collection, looks the document up, and carries out the plan that it
makes on what it has found.** -/
theorem silent_change (identifier : String) (c : Change D) :
    (r.change identifier c).run.silent =
      r.ensure.silent >>= fun _ => r.lookAndCarryOut identifier c := by
  cases c with
  | delete =>
      refine (r.silent_get_bind identifier _).trans (bind_congr fun _ => ?_)
      unfold lookAndCarryOut plan
      refine congrArg (Program.call _) (funext fun o => ?_)
      rcases r.lookedUp o.toOption with e | _ | found
      · rfl
      · rfl
      · exact r.silent_delete_write identifier
  | update document =>
      change (some <$> r.update identifier document).run.silent = _
      rw [update, map_bind]
      refine (r.silent_get_bind identifier _).trans (bind_congr fun _ => ?_)
      unfold lookAndCarryOut plan
      refine congrArg (Program.call _) (funext fun o => ?_)
      rcases r.lookedUp o.toOption with e | existing
      · rfl
      · dsimp only
        rw [map_bind, Action.encode, Action.run_ofExcept_bind]
        rcases r.codec.encode document with reason | body
        · rfl
        · exact r.silent_update_write identifier existing.isSome body

end Repository

/-! ## Writes in a store -/

/-- A write does what is said of it, if a new document names the place. -/
theorem DocumentWrite.actsAs_program {others : Backend Store} {collection identifier : String}
    {w : DocumentWrite}
    (hw : ∀ body, w = .create body → body.get? "id" = some (.string identifier)) :
    ActsAs others collection identifier (w.program collection identifier) w.effect := by
  cases w with
  | delete =>
      refine actsAs_call fun s => ?_
      rw [Store.run_delete]
      rcases hheld : s.documents collection identifier with _ | old
      · exact congrArg (Prod.mk _) (s.put_eq_self collection identifier hheld).symm
      · rfl
  | update body =>
      refine actsAs_call fun s => ?_
      rw [Store.run_update]
      rcases hheld : s.documents collection identifier with _ | old
      · exact congrArg (Prod.mk _) (s.put_eq_self collection identifier hheld).symm
      · rfl
  | create body =>
      exact actsAs_call fun s => s.run_create_of_get? collection identifier others (hw body rfl)

namespace Repository

variable {D : Type} (r : Repository D)

/-! ## Plans in the place of the document -/

/-- Whether a change is an update to a body. -/
def Writes (c : Change D) (body : Json) : Prop :=
  ∃ document, c = .update document ∧ r.codec.encode document = .ok body

/-- What a change does in the place of the document when nothing comes between. -/
def changeEffect (c : Change D) (held : Option Json) :
    Except RepositoryError (Option D) × Option Json :=
  r.planEffect (r.plan held c) held

variable {r}

/-- A document that is there and can be read is found. -/
theorem lookedUp_of_decode {body : Json} {found : D} (h : r.codec.decode body = .ok found) :
    r.lookedUp (some body) = .ok (some found) := by
  rw [lookedUp, answered, h]
  rfl

/-- The three ends of a look-up. -/
theorem lookedUp_cases (seen : Option Json) :
    (seen = none ∧ r.lookedUp seen = .ok none) ∨
      (∃ e, r.lookedUp seen = .error (.undecodable e)) ∨
      ∃ body found, seen = some body ∧ r.codec.decode body = .ok found ∧
        r.lookedUp seen = .ok (some found) := by
  rcases seen with _ | body
  · exact .inl ⟨rfl, rfl⟩
  · rcases hd : r.codec.decode body with e | found
    · refine .inr (.inl ⟨e, ?_⟩)
      rw [lookedUp, answered, hd]
      rfl
    · exact .inr (.inr ⟨body, found, rfl, hd, lookedUp_of_decode hd⟩)

/-- A change that writes deletes a document that it has found, replaces one, or creates one where it
has found none. -/
theorem plan_eq_write {seen : Option Json} {c : Change D} {w : DocumentWrite}
    (h : r.plan seen c = .write w) :
    (c = .delete ∧ w = .delete ∧ ∃ body found, seen = some body ∧ r.codec.decode body = .ok found) ∨
      (∃ body, r.Writes c body ∧ seen = none ∧ w = .create body) ∨
      ∃ body, r.Writes c body ∧ w = .update body ∧
        ∃ old found, seen = some old ∧ r.codec.decode old = .ok found := by
  cases c with
  | delete =>
      rw [plan] at h
      rcases r.lookedUp_cases seen with ⟨-, hl⟩ | ⟨e, hl⟩ | ⟨body, found, hseen, hd, hl⟩ <;>
        rw [hl] at h <;> cases h
      exact .inl ⟨rfl, rfl, body, found, hseen, hd⟩
  | update document =>
      rw [plan] at h
      rcases r.lookedUp_cases seen with ⟨hseen, hl⟩ | ⟨e, hl⟩ | ⟨old, found, hseen, hd, hl⟩ <;>
        rw [hl] at h
      · rcases hbody : r.codec.encode document with reason | body <;> rw [hbody] at h <;> cases h
        exact .inr (.inl ⟨body, ⟨document, rfl, hbody⟩, hseen, rfl⟩)
      · cases h
      · rcases hbody : r.codec.encode document with reason | body <;> rw [hbody] at h <;> cases h
        exact .inr (.inr ⟨body, ⟨document, rfl, hbody⟩, rfl, old, found, hseen, hd⟩)

/-- A deletion that has found a document deletes it. -/
theorem plan_delete_of_decode {body : Json} {found : D} (h : r.codec.decode body = .ok found) :
    r.plan (some body) .delete = .write .delete := by
  rw [plan, lookedUp_of_decode h]

/-- An update that has found a document replaces it. -/
theorem plan_of_writes {c : Change D} {old body : Json} {found : D}
    (h : r.codec.decode old = .ok found) (hc : r.Writes c body) :
    r.plan (some old) c = .write (.update body) := by
  obtain ⟨document, rfl, hbody⟩ := hc
  rw [plan, lookedUp_of_decode h]
  dsimp only
  rw [hbody]
  rfl

theorem answered_ok_ne_notFound (body : Json) :
    r.answered (.ok body) ≠ .error (.backend .notFound) := by
  rw [answered]
  cases r.codec.decode body <;> nofun

/-- A change that ends without a write does not complain that the document is absent. -/
theorem ne_notFound_of_plan_eq_stop {seen : Option Json} {c : Change D}
    {result : Except RepositoryError (Option D)} (h : r.plan seen c = .stop result) :
    result ≠ .error (.backend .notFound) := by
  cases c with
  | delete =>
      rw [plan] at h
      rcases r.lookedUp_cases seen with ⟨-, hl⟩ | ⟨e, hl⟩ | ⟨body, found, -, -, hl⟩ <;>
        rw [hl] at h <;> cases h <;> nofun
  | update document =>
      rw [plan] at h
      rcases r.lookedUp_cases seen with ⟨-, hl⟩ | ⟨e, hl⟩ | ⟨old, found, -, -, hl⟩ <;> rw [hl] at h
      · rcases hbody : r.codec.encode document with reason | body <;> rw [hbody] at h <;> cases h
        nofun
      · cases h
        nofun
      · rcases hbody : r.codec.encode document with reason | body <;> rw [hbody] at h <;> cases h
        nofun

/-- **A change between whose look-up and write nothing comes does not complain that the document is
absent.** -/
theorem changeEffect_ne_notFound (c : Change D) (held : Option Json) :
    (r.changeEffect c held).1 ≠ .error (.backend .notFound) := by
  unfold changeEffect
  rcases hp : r.plan held c with result | w
  · exact ne_notFound_of_plan_eq_stop hp
  · rcases plan_eq_write hp with ⟨-, rfl, body, found, rfl, -⟩ | ⟨body, -, rfl, rfl⟩ |
      ⟨body, -, rfl, old, found, rfl, -⟩
    all_goals exact answered_ok_ne_notFound _

/-- A change that writes has found a document to delete, or leaves the body of an update. -/
theorem changeEffect_of_plan_eq_write {held : Option Json} {c : Change D} {w : DocumentWrite}
    (h : r.plan held c = .write w) :
    (c = .delete ∧ ∃ body found, held = some body ∧ r.codec.decode body = .ok found) ∨
      ∃ body, r.Writes c body ∧ (r.changeEffect c held).2 = some body := by
  unfold changeEffect
  rw [h]
  rcases plan_eq_write h with ⟨hc, -, hfound⟩ | ⟨body, hbody, rfl, rfl⟩ |
    ⟨body, hbody, rfl, old, found, rfl, -⟩
  · exact .inl ⟨hc, hfound⟩
  · exact .inr ⟨body, hbody, rfl⟩
  · exact .inr ⟨body, hbody, rfl⟩

/-- A write works out the same wherever there is a document that can be read. -/
theorem planEffect_of_decode {c : Change D} {held : Option Json}
    {w : DocumentWrite} {body : Json} {found : D} (hplan : r.plan held c = .write w)
    (hbody : r.codec.decode body = .ok found) :
    r.planEffect (.write w) (some body) = r.changeEffect c (some body) := by
  unfold changeEffect
  rcases plan_eq_write hplan with ⟨rfl, rfl, -⟩ | ⟨new, hnew, -, rfl⟩ | ⟨new, hnew, rfl, -⟩
  · rw [plan_delete_of_decode hbody]
  · rw [plan_of_writes hbody hnew]
    rfl
  · rw [plan_of_writes hbody hnew]

/-! ## Changes in a store -/

section store

variable {others : Backend Store} {collection identifier : String} {c : Change D}

/-- A plan does what is said of it. -/
theorem actsAs_carryOut (hname : r.name = collection) {p : Plan D}
    (hp : ∀ body, p = .write (.create body) → body.get? "id" = some (.string identifier)) :
    ActsAs others collection identifier (r.carryOut identifier p) (r.planEffect p) := by
  subst hname
  cases p with
  | stop result => exact actsAs_done result
  | write w =>
      have hw : ∀ body, w = .create body → body.get? "id" = some (.string identifier) := by
        rintro body rfl
        exact hp body rfl
      exact (DocumentWrite.actsAs_program hw).bind_done r.answered

/-- A plan is carried out with one call at most. -/
theorem isBrief_carryOut (p : Plan D) : (r.carryOut identifier p).IsBrief := by
  rcases p with result | (_ | body | body)
  · trivial
  all_goals exact fun o => ⟨r.answered o, rfl⟩

/-- A plan creates a document only with the body of an update. -/
theorem get?_of_plan_eq_create
    (hid : ∀ body, r.Writes c body → body.get? "id" = some (.string identifier))
    {seen : Option Json} {body : Json} (h : r.plan seen c = .write (.create body)) :
    body.get? "id" = some (.string identifier) := by
  rcases plan_eq_write h with ⟨-, hw, -⟩ | ⟨new, hnew, -, hw⟩ | ⟨new, -, hw, -⟩
  · cases hw
  · cases hw
    exact hid body hnew
  · cases hw

/-- A look-up with a plan carried out on what it has found does what is said of the change. -/
theorem actsAs_lookAndCarryOut (hname : r.name = collection)
    (hid : ∀ body, r.Writes c body → body.get? "id" = some (.string identifier)) :
    ActsAs others collection identifier (r.lookAndCarryOut identifier c) (r.changeEffect c) := by
  have hplan (seen : Option Json) :
      ActsAs others collection identifier (r.carryOut identifier (r.plan seen c))
        (r.planEffect (r.plan seen c)) :=
    actsAs_carryOut hname fun _ h => get?_of_plan_eq_create hid h
  subst hname
  constructor
  · intro s hs
    unfold lookAndCarryOut
    rw [Program.value_call, Store.state_run_retrieve, Store.toOption_run_retrieve,
      (hplan _).value s hs]
    rfl
  · intro s hs
    unfold lookAndCarryOut
    rw [Program.final_call, Store.state_run_retrieve, Store.toOption_run_retrieve,
      (hplan _).final s hs]
    rfl

/-- **A change does what is said of it** when nothing comes between its calls. -/
theorem actsAs_change (hname : r.name = collection)
    (hid : ∀ body, r.Writes c body → body.get? "id" = some (.string identifier)) :
    ActsAs others collection identifier (r.change identifier c).run (r.changeEffect c) := by
  have hlook : ActsAs others collection identifier (r.lookAndCarryOut identifier c)
      (r.changeEffect c) := actsAs_lookAndCarryOut hname hid
  subst hname
  constructor
  · intro s hs
    rw [← Program.value_silent, silent_change, value_ensure_bind hs, hlook.value s hs]
  · intro s hs
    rw [← Program.final_silent, silent_change, final_ensure_bind hs, hlook.final s hs]

/-- A plan keeps the collection. -/
theorem makesOnly_carryOut (p : Plan D) :
    (r.carryOut identifier p).MakesOnly (Store.Keeps collection others) := by
  rcases p with result | (_ | body | body)
  · trivial
  · exact ⟨Store.keeps_delete r.name identifier, fun _ => trivial⟩
  · exact ⟨Store.keeps_update r.name identifier body, fun _ => trivial⟩
  · exact ⟨Store.keeps_create r.name body, fun _ => trivial⟩

theorem makesOnly_lookAndCarryOut :
    (r.lookAndCarryOut identifier c).MakesOnly (Store.Keeps collection others) :=
  ⟨Store.keeps_retrieve r.name identifier, fun _ => makesOnly_carryOut _⟩

end store

end Repository

end CollectionSearch
