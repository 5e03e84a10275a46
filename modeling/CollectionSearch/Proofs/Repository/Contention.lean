import CollectionSearch.Proofs.Repository.Change

/-!
# Two clients at one document

Two clients change one document of a reliable store. Both look first and write then, and the write
of one client may fall between the look-up and the write of the other.

* `Repository.Contended` : whether a deletion may take away what the other client has found.
* `Repository.staleEffect` : how a change ends whose plan is out of date.
* `Repository.Shares` : what two clients ask of each other.

**Main statements:** `stale_cases` says what becomes of two plans made on one look-up, and
`contended_iff_exists_not_serial` when two clients can end as they never do one after the other, and
how.
-/

namespace CollectionSearch.Repository

/-! ## Plans on one look-up -/

variable {D₁ D₂ : Type} {r₁ : Repository D₁} {r₂ : Repository D₂} {c₁ : Change D₁} {c₂ : Change D₂}

/-- Whether a deletion may take away what the other client has found. -/
structure Contended (r₁ : Repository D₁) (r₂ : Repository D₂) (held : Option Json)
    (c₁ : Change D₁) (c₂ : Change D₂) : Prop where
  /-- There is a document that both clients can read. -/
  found : ∃ body found₁ found₂, held = some body ∧ r₁.codec.decode body = .ok found₁ ∧
    r₂.codec.decode body = .ok found₂
  /-- The first client deletes it or has something to write. -/
  first : c₁ = .delete ∨ ∃ body, r₁.Writes c₁ body
  /-- The second client deletes it or has something to write. -/
  second : c₂ = .delete ∨ ∃ body, r₂.Writes c₂ body
  /-- One of them deletes it. -/
  deletes : c₁ = .delete ∨ c₂ = .delete

theorem Contended.swap {held : Option Json} (h : Contended r₁ r₂ held c₁ c₂) :
    Contended r₂ r₁ held c₂ c₁ := by
  obtain ⟨body, found₁, found₂, hheld, h₁, h₂⟩ := h.found
  exact ⟨⟨body, found₂, found₁, hheld, h₂, h₁⟩, h.second, h.first, h.deletes.symm⟩

/-- How the second of two changes ends that have looked at the same document. -/
def staleEffect (r₁ : Repository D₁) (r₂ : Repository D₂) (c₁ : Change D₁) (c₂ : Change D₂)
    (held : Option Json) : Except RepositoryError (Option D₂) × Option Json :=
  r₂.planEffect (r₂.plan held c₂) (r₁.changeEffect c₁ held).2

/-- What a deletion takes away is lost for a client that has found it. -/
theorem lost_of_contended {held : Option Json} (h : Contended r₁ r₂ held .delete c₂) :
    (∃ found, r₁.changeEffect .delete held = (.ok (some found), none)) ∧
      staleEffect r₁ r₂ .delete c₂ held = (.error (.backend .notFound), none) := by
  obtain ⟨body, found₁, found₂, rfl, h₁, h₂⟩ := h.found
  have hfirst : r₁.changeEffect .delete (some body) = (.ok (some found₁), none) := by
    unfold changeEffect
    rw [plan_delete_of_decode h₁]
    exact congrArg (·, none) (lookedUp_of_decode h₁)
  refine ⟨⟨found₁, hfirst⟩, ?_⟩
  unfold staleEffect
  rw [hfirst]
  rcases h.second with rfl | ⟨new, hnew⟩
  · rw [plan_delete_of_decode h₂]
    rfl
  · rw [plan_of_writes h₂ hnew]
    rfl

/-- **Two changes that have looked at the same document.** The second one stops, or ends as if it
had looked after the first, or finds nothing because the first has deleted the document. -/
theorem stale_cases (c₂ : Change D₂)
    (hread : ∀ body, r₁.Writes c₁ body → ∃ found, r₂.codec.decode body = .ok found)
    (held : Option Json) :
    (∃ result, r₂.plan held c₂ = .stop result) ∨
      staleEffect r₁ r₂ c₁ c₂ held = r₂.changeEffect c₂ (r₁.changeEffect c₁ held).2 ∨
      (c₁ = .delete ∧ Contended r₁ r₂ held c₁ c₂) := by
  unfold staleEffect
  rcases hplan₂ : r₂.plan held c₂ with result | w₂
  · exact .inl ⟨result, rfl⟩
  right
  rcases hplan₁ : r₁.plan held c₁ with result | w₁
  · -- the first client stops, so the second has looked at what is still there
    left
    have hsame : (r₁.changeEffect c₁ held).2 = held := by
      rw [changeEffect, hplan₁]
      rfl
    rw [hsame, changeEffect, hplan₂]
  rcases changeEffect_of_plan_eq_write hplan₁ with ⟨rfl, body, found₁, rfl, hfound₁⟩ |
    ⟨body, hbody, hleft⟩
  · right
    refine ⟨rfl, ?_⟩
    rcases plan_eq_write hplan₂ with ⟨rfl, -, _, found₂, hseen, hfound₂⟩ | ⟨_, -, hseen, -⟩ |
      ⟨new, hnew, -, _, found₂, hseen, hfound₂⟩ <;> cases hseen
    · exact ⟨⟨body, found₁, found₂, rfl, hfound₁, hfound₂⟩, .inl rfl, .inl rfl, .inl rfl⟩
    · exact ⟨⟨body, found₁, found₂, rfl, hfound₁, hfound₂⟩, .inl rfl, .inr ⟨new, hnew⟩, .inl rfl⟩
  · -- the second client has a write planned, and the first leaves a document that it can read
    left
    obtain ⟨found, hfound⟩ := hread body hbody
    rw [hleft]
    exact planEffect_of_decode hplan₂ hfound

/-! ## Two clients -/

/-- What two clients that share a document ask of each other: they use the same collection, and what
one of them writes has the identifier and can be read by the other. -/
structure Shares (r₁ : Repository D₁) (r₂ : Repository D₂) (collection identifier : String)
    (c₁ : Change D₁) : Prop where
  /-- The client uses the collection. -/
  name : r₁.name = collection
  /-- What it writes has the identifier. -/
  identified : ∀ body, r₁.Writes c₁ body → body.get? "id" = some (.string identifier)
  /-- What it writes can be read by the other client. -/
  readable : ∀ body, r₁.Writes c₁ body → ∃ found, r₂.codec.decode body = .ok found

section clients

variable {others : Backend Store} {collection identifier : String} {s : Store}
  {x : Except RepositoryError (Option D₁)} {y : Except RepositoryError (Option D₂)} {t : Store}

/-- Two changes in a collection that is there: only the look-ups and the writes count. -/
theorem interleaved_change_iff (h₁ : r₁.name = collection) (h₂ : r₂.name = collection)
    (hs : collection ∈ s.collections) :
    Program.Interleaved (Store.backend others) (r₁.change identifier c₁).run
        (r₂.change identifier c₂).run s x y t ↔
      Program.Interleaved (Store.backend others) (r₁.lookAndCarryOut identifier c₁)
        (r₂.lookAndCarryOut identifier c₂) s x y t := by
  have hkeeps : (r₂.change identifier c₂).run.silent.MakesOnly (Store.Keeps collection others) := by
    rw [silent_change]
    exact Program.makesOnly_bind (fun _ => makesOnly_lookAndCarryOut) _ r₂.makesOnly_silent_ensure
  rw [← Program.interleaved_silent_iff, silent_change r₁,
    interleaved_ensure_bind_iff (h₁ ▸ hs) _ (h₁ ▸ hkeeps), Program.interleaved_swap_iff,
    silent_change r₂, interleaved_ensure_bind_iff (h₂ ▸ hs) _ (h₂ ▸ makesOnly_lookAndCarryOut),
    Program.interleaved_swap_iff]

/-- One change after the other, in terms of the place of the document. -/
theorem sequential_change_iff (h₁ : r₁.Shares r₂ collection identifier c₁)
    (h₂ : r₂.Shares r₁ collection identifier c₂) (hs : collection ∈ s.collections) :
    Program.Sequential (Store.backend others) (r₁.change identifier c₁).run
        (r₂.change identifier c₂).run s x y t ↔
      (r₁.changeEffect c₁ (s.documents collection identifier)).1 = x ∧
        (r₂.changeEffect c₂ (r₁.changeEffect c₁ (s.documents collection identifier)).2).1 = y ∧
        s.put collection identifier
          (r₂.changeEffect c₂ (r₁.changeEffect c₁ (s.documents collection identifier)).2).2 = t :=
  sequential_iff_of_actsAs (actsAs_change h₁.name h₁.identified)
    (actsAs_change h₂.name h₂.identified) hs

/-- One plan after the other, both made on one look-up. -/
theorem sequential_carryOut_iff (h₁ : r₁.Shares r₂ collection identifier c₁)
    (h₂ : r₂.Shares r₁ collection identifier c₂) (hs : collection ∈ s.collections) :
    Program.Sequential (Store.backend others)
        (r₁.carryOut identifier (r₁.plan (s.documents collection identifier) c₁))
        (r₂.carryOut identifier (r₂.plan (s.documents collection identifier) c₂)) s x y t ↔
      (r₁.changeEffect c₁ (s.documents collection identifier)).1 = x ∧
        (staleEffect r₁ r₂ c₁ c₂ (s.documents collection identifier)).1 = y ∧
        s.put collection identifier
          (staleEffect r₁ r₂ c₁ c₂ (s.documents collection identifier)).2 = t :=
  sequential_iff_of_actsAs (actsAs_carryOut h₁.name fun _ => get?_of_plan_eq_create h₁.identified)
    (actsAs_carryOut h₂.name fun _ => get?_of_plan_eq_create h₂.identified) hs

/-- How two changes end when the second one loses what it has found. -/
structure Lost (r₁ : Repository D₁) (r₂ : Repository D₂) (collection identifier : String)
    (s : Store) (c₁ : Change D₁) (c₂ : Change D₂) (x : Except RepositoryError (Option D₁))
    (y : Except RepositoryError (Option D₂)) (t : Store) : Prop where
  /-- The first one deletes. -/
  deletes : c₁ = .delete
  /-- There was something to be lost. -/
  contended : Contended r₁ r₂ (s.documents collection identifier) c₁ c₂
  /-- The first one returns what it has deleted. -/
  first : ∃ found, x = .ok (some found)
  /-- The second one fails. -/
  second : y = .error (.backend .notFound)
  /-- The document is gone. -/
  final : t = s.put collection identifier none

/-- **Two writes that are planned on one look-up** end as one change after the other, or the second
loses what it has found. -/
theorem serial_or_lost_of_stale (h₁ : r₁.Shares r₂ collection identifier c₁)
    (h₂ : r₂.Shares r₁ collection identifier c₂) (hs : collection ∈ s.collections)
    (h : Program.Sequential (Store.backend others)
        (r₁.carryOut identifier (r₁.plan (s.documents collection identifier) c₁))
        (r₂.carryOut identifier (r₂.plan (s.documents collection identifier) c₂)) s x y t) :
    Program.Serial (Store.backend others) (r₁.change identifier c₁).run
        (r₂.change identifier c₂).run s x y t ∨
      Lost r₁ r₂ collection identifier s c₁ c₂ x y t := by
  rw [sequential_carryOut_iff h₁ h₂ hs] at h
  obtain ⟨hx, hy, ht⟩ := h
  rcases stale_cases c₂ h₁.readable (s.documents collection identifier) with
    ⟨result, hstop⟩ | hsame | ⟨rfl, hcontended⟩
  · -- the second client stops, so it might as well have gone first
    refine .inl (.inr ((sequential_change_iff h₂ h₁ hs).mpr ?_))
    have hsecond : r₂.changeEffect c₂ (s.documents collection identifier) =
        (result, s.documents collection identifier) := by
      rw [changeEffect, hstop]
      rfl
    rw [staleEffect, hstop] at hy ht
    rw [hsecond]
    exact ⟨hy, hx, ht⟩
  · rw [hsame] at hy ht
    exact .inl (.inl ((sequential_change_iff h₁ h₂ hs).mpr ⟨hx, hy, ht⟩))
  · obtain ⟨⟨found, hfirst⟩, hlost⟩ := lost_of_contended hcontended
    rw [hfirst] at hx
    rw [hlost] at hy ht
    exact .inr ⟨rfl, hcontended, ⟨found, hx.symm⟩, hy.symm, ht.symm⟩

/-- One after the other, neither change complains that the document is absent. -/
theorem ne_notFound_of_serial (h₁ : r₁.Shares r₂ collection identifier c₁)
    (h₂ : r₂.Shares r₁ collection identifier c₂) (hs : collection ∈ s.collections)
    (h : Program.Serial (Store.backend others) (r₁.change identifier c₁).run
        (r₂.change identifier c₂).run s x y t) :
    x ≠ .error (.backend .notFound) ∧ y ≠ .error (.backend .notFound) := by
  rcases h with h | h
  · obtain ⟨rfl, rfl, -⟩ := (sequential_change_iff h₁ h₂ hs).mp h
    exact ⟨changeEffect_ne_notFound _ _, changeEffect_ne_notFound _ _⟩
  · obtain ⟨rfl, rfl, -⟩ := (sequential_change_iff h₂ h₁ hs).mp h
    exact ⟨changeEffect_ne_notFound _ _, changeEffect_ne_notFound _ _⟩

/-- The ways in which two clients may end. -/
theorem serial_or_lost_of_interleaved (h₁ : r₁.Shares r₂ collection identifier c₁)
    (h₂ : r₂.Shares r₁ collection identifier c₂) (hs : collection ∈ s.collections)
    (h : Program.Interleaved (Store.backend others) (r₁.change identifier c₁).run
      (r₂.change identifier c₂).run s x y t) :
    Program.Serial (Store.backend others) (r₁.change identifier c₁).run
        (r₂.change identifier c₂).run s x y t ∨
      Lost r₁ r₂ collection identifier s c₁ c₂ x y t ∨
      Lost r₂ r₁ collection identifier s c₂ c₁ y x t := by
  have hpure (name : String) : ∀ s : Store,
      ((Store.backend others (.retrieve name identifier)).run s).2 = s :=
    fun s => s.state_run_retrieve name identifier others
  rw [interleaved_change_iff h₁.name h₂.name hs] at h
  rcases Program.serial_or_serial_of_interleaved (hpure r₁.name) (hpure r₂.name)
    (fun _ => isBrief_carryOut _) (fun _ => isBrief_carryOut _) h with h | h
  · left
    exact (serial_congr_of_actsAs (actsAs_change h₁.name h₁.identified)
      (actsAs_lookAndCarryOut h₁.name h₁.identified) (actsAs_change h₂.name h₂.identified)
      (actsAs_lookAndCarryOut h₂.name h₂.identified) hs).mpr h
  · rw [Store.toOption_run_retrieve, Store.toOption_run_retrieve, h₁.name, h₂.name] at h
    rcases h with h | h
    · rcases serial_or_lost_of_stale h₁ h₂ hs h with h | h
      · exact .inl h
      · exact .inr (.inl h)
    · rcases serial_or_lost_of_stale h₂ h₁ hs h with h | h
      · exact .inl h.swap
      · exact .inr (.inr h)

/-- A deletion and a change that both have looked before either writes: the deletion goes first. -/
theorem interleaved_of_contended (h₁ : r₁.Shares r₂ collection identifier .delete)
    (h₂ : r₂.Shares r₁ collection identifier c₂) (hs : collection ∈ s.collections)
    (h : Contended r₁ r₂ (s.documents collection identifier) .delete c₂) :
    ∃ found, Program.Interleaved (Store.backend others) (r₁.change identifier .delete).run
      (r₂.change identifier c₂).run s (.ok (some found)) (.error (.backend .notFound))
      (s.put collection identifier none) := by
  obtain ⟨⟨found, hfirst⟩, hlost⟩ := lost_of_contended h
  refine ⟨found, ?_⟩
  rw [interleaved_change_iff h₁.name h₂.name hs]
  apply Program.interleaved_of_sequential
  · exact fun s => s.state_run_retrieve _ _ _
  · exact fun s => s.state_run_retrieve _ _ _
  · rw [Store.toOption_run_retrieve, Store.toOption_run_retrieve, h₁.name, h₂.name,
      sequential_carryOut_iff h₁ h₂ hs, hfirst, hlost]
    exact ⟨rfl, rfl, rfl⟩

end clients

/-! ## A store with one product -/

/-- A repository of products. -/
def products : Repository Json :=
  ⟨CollectionDraft.schema { name := "products" } (by decide), {}, .json⟩

/-- The product of an identifier and a name. -/
def product (identifier name : String) : Json :=
  .object [("id", .string identifier), ("name", .string name)]

/-- A store with one product. -/
def productStore : Store where
  collections := ["products"]
  documents collection identifier :=
    if collection = "products" ∧ identifier = "1" then some (product "1" "shoe") else none

/-- Two clients may share the product when one of them deletes it. -/
theorem shares_products_delete : products.Shares products "products" "1" .delete := by
  constructor
  · rfl
  · rintro body ⟨document, hc, -⟩
    cases hc
  · rintro body ⟨document, hc, -⟩
    cases hc

/-- Two clients may share the product when one of them gives it another name. -/
theorem shares_products_update (name : String) :
    products.Shares products "products" "1" (.update (product "1" name)) := by
  constructor
  · rfl
  · rintro body ⟨document, hc, hbody⟩
    cases hc
    cases hbody
    rfl
  · rintro body -
    exact ⟨body, rfl⟩

/-! ## Exactly when it goes wrong -/

/-- **Two clients that change one document end as one after the other, unless a deletion takes away
what the other client has found.** That can happen exactly if there is a document that both can
read, one of them deletes it, and the other deletes it too or has something to write. Then the other
client is told that what it found is absent, the deletion returns the document, and the document is
gone. -/
theorem contended_iff_exists_not_serial {others : Backend Store} {collection identifier : String}
    {s : Store} (h₁ : r₁.Shares r₂ collection identifier c₁)
    (h₂ : r₂.Shares r₁ collection identifier c₂) (hs : collection ∈ s.collections) :
    (Contended r₁ r₂ (s.documents collection identifier) c₁ c₂ ↔
      ∃ x y t,
        Program.Interleaved (Store.backend others) (r₁.change identifier c₁).run
            (r₂.change identifier c₂).run s x y t ∧
          ¬ Program.Serial (Store.backend others) (r₁.change identifier c₁).run
            (r₂.change identifier c₂).run s x y t) ∧
      ∀ x y t,
        Program.Interleaved (Store.backend others) (r₁.change identifier c₁).run
            (r₂.change identifier c₂).run s x y t →
          (Program.Serial (Store.backend others) (r₁.change identifier c₁).run
              (r₂.change identifier c₂).run s x y t ↔
            x ≠ .error (.backend .notFound) ∧ y ≠ .error (.backend .notFound)) ∧
          (x = .error (.backend .notFound) → c₂ = .delete ∧
            (∃ found, y = .ok (some found)) ∧ t = s.put collection identifier none) ∧
          (y = .error (.backend .notFound) → c₁ = .delete ∧
            (∃ found, x = .ok (some found)) ∧ t = s.put collection identifier none) := by
  refine ⟨⟨fun h => ?_, ?_⟩, ?_⟩
  · rcases h.deletes with rfl | rfl
    · obtain ⟨found, hrun⟩ := interleaved_of_contended h₁ h₂ hs h
      exact ⟨_, _, _, hrun, fun hserial => (ne_notFound_of_serial h₁ h₂ hs hserial).2 rfl⟩
    · obtain ⟨found, hrun⟩ := interleaved_of_contended h₂ h₁ hs h.swap
      exact ⟨_, _, _, hrun.swap, fun hserial => (ne_notFound_of_serial h₁ h₂ hs hserial).1 rfl⟩
  · rintro ⟨x, y, t, hrun, hnot⟩
    rcases serial_or_lost_of_interleaved h₁ h₂ hs hrun with hserial | hlost | hlost
    · exact absurd hserial hnot
    · exact hlost.contended
    · exact hlost.contended.swap
  · intro x y t hrun
    rcases serial_or_lost_of_interleaved h₁ h₂ hs hrun with hserial | hlost | hlost
    · obtain ⟨hx, hy⟩ := ne_notFound_of_serial h₁ h₂ hs hserial
      exact ⟨⟨fun _ => ⟨hx, hy⟩, fun _ => hserial⟩, fun h => absurd h hx, fun h => absurd h hy⟩
    · obtain ⟨found, hx⟩ := hlost.first
      refine ⟨⟨ne_notFound_of_serial h₁ h₂ hs, fun h => absurd hlost.second h.2⟩, ?_, ?_⟩
      · rw [hx]
        nofun
      · exact fun _ => ⟨hlost.deletes, hlost.first, hlost.final⟩
    · obtain ⟨found, hy⟩ := hlost.first
      refine ⟨⟨ne_notFound_of_serial h₁ h₂ hs, fun h => absurd hlost.second h.1⟩, ?_, ?_⟩
      · exact fun _ => ⟨hlost.deletes, hlost.first, hlost.final⟩
      · rw [hy]
        nofun

/-- A deletion and an update of the product may end as they never do one after the other. Two
updates always end as one after the other. -/
theorem contended_iff_exists_not_serial_sample :
    let b := Store.backend fun _ => pure (.error .notFound)
    let deletion := (products.change "1" .delete).run
    let update name := (products.change "1" (.update (product "1" name))).run
    (∃ x y t, Program.Interleaved b deletion (update "boot") productStore x y t ∧
        ¬ Program.Serial b deletion (update "boot") productStore x y t) ∧
      ∀ x y t, Program.Interleaved b (update "clog") (update "boot") productStore x y t →
        Program.Serial b (update "clog") (update "boot") productStore x y t := by
  intro b deletion update
  have hstore : "products" ∈ productStore.collections := by decide
  constructor
  · refine (contended_iff_exists_not_serial shares_products_delete (shares_products_update "boot")
      hstore).1.mp ?_
    constructor
    · exact ⟨product "1" "shoe", _, _, rfl, rfl, rfl⟩
    · exact .inl rfl
    · exact .inr ⟨_, _, rfl, rfl⟩
    · exact .inl rfl
  · intro x y t hrun
    by_contra hnot
    have hcontended := (contended_iff_exists_not_serial (shares_products_update "clog")
      (shares_products_update "boot") hstore).1.mpr ⟨x, y, t, hrun, hnot⟩
    rcases hcontended.deletes with hc | hc <;> cases hc

/-- **Two deletions of one product**, of which one fails because the other has come between its
look-up and its write. One after the other, the second finds nothing to delete. -/
theorem interleaved_deletions_not_serial :
    let b := Store.backend fun _ => pure (.error .notFound)
    let deletion := (products.delete "1").run
    let found := .ok (some (product "1" "shoe"))
    let failed := .error (.backend .notFound)
    let after := productStore.put "products" "1" none
    Program.Sequential b deletion deletion productStore found (.ok none) after ∧
      Program.Interleaved b deletion deletion productStore found failed after ∧
      ¬ Program.Serial b deletion deletion productStore found failed after := by
  intro b deletion found failed after
  have hstore : "products" ∈ productStore.collections := by decide
  refine ⟨?_, ?_, ?_⟩
  · exact ⟨rfl, rfl, rfl⟩
  · change Program.Interleaved b (products.change "1" .delete).run (products.change "1" .delete).run
      productStore found failed after
    rw [interleaved_change_iff rfl rfl hstore]
    exact .callLeft (.callRight (.callLeft (.callRight (.done _ _ _))))
  · intro hserial
    have hfailed := (ne_notFound_of_serial shares_products_delete shares_products_delete hstore
      hserial).2
    exact hfailed rfl

end CollectionSearch.Repository
