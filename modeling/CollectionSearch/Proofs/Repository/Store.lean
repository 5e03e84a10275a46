import Mathlib.Logic.Function.Basic
import CollectionSearch.Proofs.Repository.Interleaving
import CollectionSearch.Repository.Documents

/-!
# A reliable store

A service that keeps documents by collection and identifier and never fails without a reason. What
it does with searches, imports and other calls that are not about single documents is left open.

* `Store` : what is kept; `Store.put` : one place in it is filled or emptied.
* `Store.backend` : the service; `Store.Keeps` : whether a call leaves a collection there.
* `ActsAs` : what a program does in the place of one document.

**Main statements:** `run_retrieve`, `run_create`, `run_update` and `run_delete` give the calls for
single documents in terms of `put`, `interleaved_ensure_bind_iff` says that making sure of a
collection that is there does not count, whatever another client does meanwhile, and
`sequential_iff_of_actsAs` runs one program after the other in one place.
-/

namespace CollectionSearch

/-- What a service keeps. -/
structure Store where
  /-- The names of the collections. -/
  collections : List String
  /-- The documents by collection and identifier. -/
  documents : String → String → Option Json

namespace Store

variable (s : Store) (collection identifier : String)

/-- Fills or empties the place of a document. -/
def put (body : Option Json) : Store where
  collections := s.collections
  documents := Function.update s.documents collection
    (Function.update (s.documents collection) identifier body)

/-! ## Places -/

@[simp] theorem collections_put (body : Option Json) :
    (s.put collection identifier body).collections = s.collections := rfl

@[simp] theorem documents_put (body : Option Json) :
    (s.put collection identifier body).documents collection identifier = body := by
  simp [put]

/-- Of the documents of a collection one place is filled or emptied. -/
theorem documents_put_of_collection (body : Option Json) :
    (s.put collection identifier body).documents collection =
      Function.update (s.documents collection) identifier body := by
  simp [put]

@[simp] theorem put_put (first second : Option Json) :
    (s.put collection identifier first).put collection identifier second =
      s.put collection identifier second := by
  simp [put]

/-- Putting down what is there changes nothing. -/
theorem put_eq_self {body : Option Json} (h : s.documents collection identifier = body) :
    s.put collection identifier body = s := by
  rw [← h]
  simp [put]

/-! ## The service -/

/-- The service. A new document is kept under the identifier in its body; what is not there cannot
be fetched, replaced or deleted. -/
def backend (others : Backend Store) : Backend Store
  | .collectionExists name => fun s => (.ok (name ∈ s.collections), s)
  | .createCollection declaration => fun s =>
    (.ok (), { s with collections := declaration.name :: s.collections })
  | .retrieve collection identifier => fun s =>
    match s.documents collection identifier with
    | some body => (.ok body, s)
    | none => (.error .notFound, s)
  | .create collection body => fun s =>
    match (body.get? "id").bind Json.string? with
    | some identifier => (.ok body, s.put collection identifier (some body))
    | none => (.error (.refused "missing id"), s)
  | .update collection identifier body => fun s =>
    match s.documents collection identifier with
    | some _ => (.ok body, s.put collection identifier (some body))
    | none => (.error .notFound, s)
  | .delete collection identifier => fun s =>
    match s.documents collection identifier with
    | some body => (.ok body, s.put collection identifier none)
    | none => (.error .notFound, s)
  | c => others c

variable (others : Backend Store)

@[simp] theorem run_collectionExists (name : String) :
    (backend others (.collectionExists name)).run s =
      (.ok (decide (name ∈ s.collections)), s) := rfl

theorem run_retrieve :
    (backend others (.retrieve collection identifier)).run s =
      match s.documents collection identifier with
      | some body => (.ok body, s)
      | none => (.error .notFound, s) := rfl

theorem run_create (body : Json) :
    (backend others (.create collection body)).run s =
      match (body.get? "id").bind Json.string? with
      | some identifier => (.ok body, s.put collection identifier (some body))
      | none => (.error (.refused "missing id"), s) := rfl

/-- A document is created in the place that its body names. -/
theorem run_create_of_get? {body : Json} (h : body.get? "id" = some (.string identifier)) :
    (backend others (.create collection body)).run s =
      (.ok body, s.put collection identifier (some body)) := by
  have hid : (body.get? "id").bind Json.string? = some identifier := by
    rw [h]
    rfl
  rw [run_create, hid]

theorem run_update (body : Json) :
    (backend others (.update collection identifier body)).run s =
      match s.documents collection identifier with
      | some _ => (.ok body, s.put collection identifier (some body))
      | none => (.error .notFound, s) := rfl

theorem run_delete :
    (backend others (.delete collection identifier)).run s =
      match s.documents collection identifier with
      | some body => (.ok body, s.put collection identifier none)
      | none => (.error .notFound, s) := rfl

/-- Fetching a document changes nothing. -/
@[simp] theorem state_run_retrieve :
    ((backend others (.retrieve collection identifier)).run s).2 = s := by
  rw [run_retrieve]
  split <;> rfl

/-- What is fetched is the document in the place, if there is one. -/
@[simp] theorem toOption_run_retrieve :
    ((backend others (.retrieve collection identifier)).run s).1.toOption =
      s.documents collection identifier := by
  rw [run_retrieve]
  rcases s.documents collection identifier with _ | body <;> rfl

/-! ## Collections stay -/

/-- Whether a collection that is there is still there after a call. -/
def Keeps (c : Call) : Prop :=
  ∀ s : Store, collection ∈ s.collections →
    collection ∈ ((backend others c).run s).2.collections

variable {collection others}

theorem keeps_collectionExists (name : String) : Keeps collection others (.collectionExists name) :=
  fun _ h => h

theorem keeps_createCollection (declaration : CollectionDeclaration) :
    Keeps collection others (.createCollection declaration) :=
  fun _ h => List.mem_cons_of_mem _ h

theorem keeps_retrieve (name identifier : String) :
    Keeps collection others (.retrieve name identifier) := by
  intro s h
  rw [state_run_retrieve]
  exact h

theorem keeps_create (name : String) (body : Json) :
    Keeps collection others (.create name body) := by
  intro s h
  rw [run_create]
  split <;> exact h

theorem keeps_update (name identifier : String) (body : Json) :
    Keeps collection others (.update name identifier body) := by
  intro s h
  rw [run_update]
  split <;> exact h

theorem keeps_delete (name identifier : String) :
    Keeps collection others (.delete name identifier) := by
  intro s h
  rw [run_delete]
  split <;> exact h

end Store

/-! ## Making sure of the collection -/

namespace Repository

variable {D α β : Type} (r : Repository D) {others : Backend Store} {s : Store}

/-- Making sure of the collection begins with a look-up, and ends there if the collection exists. -/
theorem exists_ensure_bind_eq (k : Bool → Program α) :
    ∃ next, r.ensure.silent >>= k = .call (.collectionExists r.name) next ∧
      next (.ok true) = k true :=
  ⟨_, rfl, rfl⟩

/-- The collection that is made sure of is kept. -/
theorem makesOnly_silent_ensure {collection : String} :
    r.ensure.silent.MakesOnly (Store.Keeps collection others) := by
  rw [Program.makesOnly_silent_iff]
  refine r.makesOnly_ensure.mono ?_
  rintro c (rfl | rfl)
  · exact Store.keeps_collectionExists r.name
  · exact Store.keeps_createCollection r.schema.toDeclaration

variable {r}

theorem run_exists_of_mem (h : r.name ∈ s.collections) :
    (Store.backend others (.collectionExists r.name)).run s = (.ok true, s) := by
  rw [Store.run_collectionExists, decide_eq_true h]

/-- Where the collection is there, making sure of it does not count. -/
theorem value_ensure_bind (hs : r.name ∈ s.collections) (k : Bool → Program α) :
    (r.ensure.silent >>= k).value (Store.backend others) s =
      (k true).value (Store.backend others) s := by
  obtain ⟨next, hnext, hk⟩ := r.exists_ensure_bind_eq k
  rw [hnext, Program.value_call, run_exists_of_mem hs, hk]

theorem final_ensure_bind (hs : r.name ∈ s.collections) (k : Bool → Program α) :
    (r.ensure.silent >>= k).final (Store.backend others) s =
      (k true).final (Store.backend others) s := by
  obtain ⟨next, hnext, hk⟩ := r.exists_ensure_bind_eq k
  rw [hnext, Program.final_call, run_exists_of_mem hs, hk]

/-- **Where the collection is there, making sure of it does not count**, whatever a client that
keeps it does meanwhile. -/
theorem interleaved_ensure_bind_iff {q : Program β} {x : α} {y : β} {t : Store}
    (hs : r.name ∈ s.collections) (k : Bool → Program α)
    (hq : q.MakesOnly (Store.Keeps r.name others)) :
    Program.Interleaved (Store.backend others) (r.ensure.silent >>= k) q s x y t ↔
      Program.Interleaved (Store.backend others) (k true) q s x y t := by
  obtain ⟨next, hnext, hk⟩ := r.exists_ensure_bind_eq k
  have hsettled : ∀ s : Store, r.name ∈ s.collections →
      (Store.backend others (.collectionExists r.name)).run s = (.ok true, s) :=
    fun s hs => run_exists_of_mem hs
  rw [hnext, Program.interleaved_call_iff_of_settled hsettled hs hq, hk]

end Repository

/-! ## Programs in one place -/

section place

variable {others : Backend Store} {collection identifier : String} {α β : Type}

/-- Whether a program does in the place of a document what a function says, in every store that has
the collection. Everything else stays as it is. -/
structure ActsAs (others : Backend Store) (collection identifier : String) (p : Program α)
    (f : Option Json → α × Option Json) : Prop where
  /-- The value that it ends with. -/
  value : ∀ s : Store, collection ∈ s.collections →
    p.value (Store.backend others) s = (f (s.documents collection identifier)).1
  /-- What it leaves in the place. -/
  final : ∀ s : Store, collection ∈ s.collections →
    p.final (Store.backend others) s =
      s.put collection identifier (f (s.documents collection identifier)).2

theorem actsAs_done (a : α) :
    ActsAs others collection identifier (.done a) fun held => (a, held) where
  value _ _ := rfl
  final s _ := (s.put_eq_self collection identifier rfl).symm

/-- A call does what is said of a program that makes it. -/
theorem actsAs_call {c : Call} {f : Option Json → c.Outcome × Option Json}
    (h : ∀ s : Store, (Store.backend others c).run s =
      ((f (s.documents collection identifier)).1,
        s.put collection identifier (f (s.documents collection identifier)).2)) :
    ActsAs others collection identifier (.call c .done) f where
  value s _ := by
    rw [Program.value_call, h s, Program.value_done]
  final s _ := by
    rw [Program.final_call, h s, Program.final_done]

/-- What is made of a value happens nowhere in the store. -/
theorem ActsAs.bind_done {p : Program α} {f : Option Json → α × Option Json}
    (h : ActsAs others collection identifier p f) (g : α → β) :
    ActsAs others collection identifier (p >>= fun a => .done (g a))
      fun held => (g (f held).1, (f held).2) where
  value s hs := by
    rw [Program.value_bind, h.value s hs, Program.value_done]
  final s hs := by
    rw [Program.final_bind, h.final s hs, Program.final_done]

/-- One program after the other, in terms of the place. -/
theorem sequential_iff_of_actsAs {p : Program α} {q : Program β}
    {f : Option Json → α × Option Json} {g : Option Json → β × Option Json}
    (hp : ActsAs others collection identifier p f) (hq : ActsAs others collection identifier q g)
    {s : Store} (hs : collection ∈ s.collections) {x : α} {y : β} {t : Store} :
    Program.Sequential (Store.backend others) p q s x y t ↔
      (f (s.documents collection identifier)).1 = x ∧
        (g (f (s.documents collection identifier)).2).1 = y ∧
        s.put collection identifier (g (f (s.documents collection identifier)).2).2 = t := by
  have hput (body : Option Json) : collection ∈ (s.put collection identifier body).collections := by
    rw [Store.collections_put]
    exact hs
  unfold Program.Sequential
  rw [hp.value s hs, hp.final s hs, hq.value _ (hput _), hq.final _ (hput _), Store.documents_put,
    Store.put_put]

/-- It does not matter which programs do what is said. -/
theorem serial_congr_of_actsAs {p p' : Program α} {q q' : Program β}
    {f : Option Json → α × Option Json} {g : Option Json → β × Option Json}
    (hp : ActsAs others collection identifier p f) (hp' : ActsAs others collection identifier p' f)
    (hq : ActsAs others collection identifier q g) (hq' : ActsAs others collection identifier q' g)
    {s : Store} (hs : collection ∈ s.collections) {x : α} {y : β} {t : Store} :
    Program.Serial (Store.backend others) p q s x y t ↔
      Program.Serial (Store.backend others) p' q' s x y t := by
  unfold Program.Serial
  rw [sequential_iff_of_actsAs hp hq hs, sequential_iff_of_actsAs hq hp hs,
    sequential_iff_of_actsAs hp' hq' hs, sequential_iff_of_actsAs hq' hp' hs]

end place

end CollectionSearch
