import CollectionSearch.Decode.Basic
import CollectionSearch.Proofs.Ordered
import Mathlib.Data.List.Forall2

/-!
# Computations that may fail

When a computation succeeds, by the way it is put together. Readers go through lists and stop at the
first item that cannot be read. Members are read into a map one after the other, which is the same
as reading all of them and making the map then.

**Main statements:** `errorOf_mapM` and `mapM_eq_error_iff` say which error a list has,
`mapM_eq_ok_iff_forall₂` that its items are read one by one, and `forall₂_of_map_ofList` that
members with distinct names are. `mapM_eq_ok_iff` says when a list is read as the values that it was
written from, and `map_ofList_eq_ok_iff` when members are read as the map that they were written
from.
-/

namespace CollectionSearch

variable {ε α β κ : Type}

/-! ## Errors -/

@[simp] theorem errorOf_ok (a : α) : errorOf (.ok a : Except ε α) = none := rfl

@[simp] theorem errorOf_error (e : ε) : errorOf (.error e : Except ε α) = some e := rfl

/-- What is done with the value does not change the error. -/
@[simp] theorem errorOf_map (f : α → β) (r : Except ε α) : errorOf (r.map f) = errorOf r := by
  cases r <;> rfl

theorem errorOf_eq_none_iff {r : Except ε α} : errorOf r = none ↔ ∃ a, r = .ok a := by
  cases r <;> simp

theorem errorOf_eq_some_iff {r : Except ε α} {e : ε} : errorOf r = some e ↔ r = .error e := by
  cases r <;> simp

/-- What is done with the value keeps success and failure. -/
theorem map_eq_ok_iff {f : α → β} {r : Except ε α} {b : β} :
    r.map f = .ok b ↔ ∃ a, r = .ok a ∧ f a = b := by
  cases r <;> simp [Except.map]

/-- One computation after the other succeeds when both do. -/
theorem bind_eq_ok_iff {x : Except ε α} {f : α → Except ε β} {b : β} :
    (x >>= f) = .ok b ↔ ∃ a, x = .ok a ∧ f a = .ok b := by
  cases x with
  | error e => exact ⟨nofun, fun ⟨_, h, _⟩ => nomatch h⟩
  | ok a => exact ⟨fun h => ⟨a, rfl, h⟩, fun ⟨_, rfl, h⟩ => h⟩

/-! ## Lists -/

theorem mapM_cons_of_error {f : α → Except ε β} {a : α} {e : ε} (h : f a = .error e)
    (rest : List α) : (a :: rest).mapM f = .error e := by
  rw [List.mapM_cons, h]
  rfl

theorem mapM_cons_of_ok {f : α → Except ε β} {a : α} {b : β} (h : f a = .ok b) (rest : List α) :
    (a :: rest).mapM f = (rest.mapM f).map (b :: ·) := by
  rw [List.mapM_cons, h]
  cases rest.mapM f <;> rfl

/-- The error of a list is the one of the first item that has one. -/
theorem errorOf_mapM (f : α → Except ε β) (l : List α) :
    errorOf (l.mapM f) = l.findSome? fun a => errorOf (f a) := by
  induction l with
  | nil => rfl
  | cons a rest ih =>
      rcases h : f a with e | b
      · rw [mapM_cons_of_error h, List.findSome?_cons_of_isSome (by rw [h]; rfl), h]
        rfl
      · rw [mapM_cons_of_ok h, errorOf_map, ih, List.findSome?_cons_of_isNone (by rw [h]; rfl)]

/-- A list is read when its items are, one by one. -/
theorem mapM_eq_ok_iff_forall₂ {read : α → Except ε β} {l : List α} {values : List β} :
    l.mapM read = .ok values ↔ List.Forall₂ (fun a b => read a = .ok b) l values := by
  induction l generalizing values with
  | nil =>
      have hnil : ([] : List α).mapM read = .ok [] := rfl
      rw [hnil, Except.ok.injEq, List.forall₂_nil_left_iff, eq_comm]
  | cons a rest ih =>
      rw [List.forall₂_cons_left_iff]
      rcases ha : read a with e | b
      · rw [mapM_cons_of_error ha]
        exact iff_of_false nofun nofun
      · rw [mapM_cons_of_ok ha, map_eq_ok_iff]
        constructor
        · rintro ⟨others, hothers, rfl⟩
          exact ⟨b, others, rfl, ih.mp hothers, rfl⟩
        · rintro ⟨_, others, ⟨⟩, hothers, rfl⟩
          exact ⟨others, ih.mpr hothers, rfl⟩

/-- A list succeeds when each of its items does. -/
theorem exists_mapM_eq_ok_iff {f : α → Except ε β} {l : List α} :
    (∃ values, l.mapM f = .ok values) ↔ ∀ a ∈ l, ∃ b, f a = .ok b := by
  rw [← errorOf_eq_none_iff, errorOf_mapM, List.findSome?_eq_none_iff]
  exact forall₂_congr fun _ _ => errorOf_eq_none_iff

/-- A list fails with the error of its first item that fails. -/
theorem mapM_eq_error_iff {f : α → Except ε β} {l : List α} {e : ε} :
    l.mapM f = .error e ↔
      ∃ before a after, l = before ++ a :: after ∧ f a = .error e ∧
        ∀ x ∈ before, ∃ b, f x = .ok b := by
  rw [← errorOf_eq_some_iff, errorOf_mapM, List.findSome?_eq_some_iff]
  simp only [errorOf_eq_some_iff, errorOf_eq_none_iff]

/-- A relation may be weakened using that its items come from the list. -/
theorem forall₂_imp_of_mem {R S : α → β → Prop} {l : List α} (h : ∀ a ∈ l, ∀ b, R a b → S a b)
    {values : List β} (hl : List.Forall₂ R l values) : List.Forall₂ S l values :=
  ((List.forall₂_and_left l values).mpr ⟨fun _ hmem => hmem, hl⟩).imp
    fun a b ⟨hmem, hab⟩ => h a hmem b hab

/-- What holds of each item and its value holds all along the list. -/
theorem forall₂_of_mapM {read : α → Except ε β} {R : α → β → Prop} {l : List α}
    (hread : ∀ a ∈ l, ∀ b, read a = .ok b → R a b) {values : List β}
    (h : l.mapM read = .ok values) : List.Forall₂ R l values :=
  forall₂_imp_of_mem hread (mapM_eq_ok_iff_forall₂.mp h)

/-- A list consists of values that were written, in order, exactly if it was written from them. -/
theorem forall₂_written_iff {write : β → α} {P : β → Prop} {l : List α} {values : List β} :
    List.Forall₂ (fun a b => P b ∧ write b = a) l values ↔
      (∀ b ∈ values, P b) ∧ values.map write = l := by
  constructor
  · intro h
    induction h with
    | nil => exact ⟨nofun, rfl⟩
    | cons hab _ ih => exact ⟨List.forall_mem_cons.mpr ⟨hab.1, ih.1⟩, congrArg₂ _ hab.2 ih.2⟩
  · rintro ⟨hP, rfl⟩
    rw [List.forall₂_map_left_iff, List.forall₂_same]
    exact fun b hb => ⟨hP b hb, rfl⟩

/-- Where each item is read as a value exactly when it was written from it, so is the list. -/
theorem mapM_eq_ok_iff {read : α → Except ε β} {write : β → α} {P : β → Prop} {l : List α}
    (h : ∀ a ∈ l, ∀ b, read a = .ok b ↔ P b ∧ write b = a) {values : List β} :
    l.mapM read = .ok values ↔ (∀ b ∈ values, P b) ∧ values.map write = l := by
  rw [← forall₂_written_iff, mapM_eq_ok_iff_forall₂]
  exact ⟨forall₂_imp_of_mem fun a ha b => (h a ha b).mp,
    forall₂_imp_of_mem fun a ha b => (h a ha b).mpr⟩

/-! ## Maps -/

section maps

variable [DecidableEq κ]

/-- Members that are read and added one by one are those that are read together. -/
theorem add_eq_map_foldl {read : β → Except ε (κ × α)}
    {add : OrderedMap κ α → List β → Except ε (OrderedMap κ α)} (hnil : ∀ m, add m [] = .ok m)
    (hcons : ∀ m b rest, add m (b :: rest) = read b >>= fun e => add (m.insert e.1 e.2) rest)
    (l : List β) (m : OrderedMap κ α) :
    add m l =
      (l.mapM read).map fun entries => entries.foldl (fun acc e => acc.insert e.1 e.2) m := by
  induction l generalizing m with
  | nil => exact hnil m
  | cons b rest ih =>
      rw [hcons]
      rcases hb : read b with e | e
      · rw [mapM_cons_of_error hb]
        rfl
      · rw [mapM_cons_of_ok hb]
        refine (ih (m.insert e.1 e.2)).trans ?_
        cases rest.mapM read <;> rfl

/-- Members with distinct names are read one by one, where each name comes from a key. -/
theorem forall₂_of_map_ofList {read : String × β → Except ε (κ × α)} (name : κ → String)
    {R : String × β → κ × α → Prop} {members : List (String × β)}
    (hdistinct : (members.map Prod.fst).Nodup)
    (hread : ∀ m ∈ members, ∀ e, read m = .ok e → name e.1 = m.1 ∧ R m e)
    {map : OrderedMap κ α} (h : (members.mapM read).map OrderedMap.ofList = .ok map) :
    List.Forall₂ R members map.entries := by
  obtain ⟨entries, hentries, rfl⟩ := map_eq_ok_iff.mp h
  have hall := forall₂_of_mapM hread hentries
  have hnames : members.map Prod.fst = (entries.map Prod.fst).map name := by
    rw [← List.forall₂_eq_eq_eq, List.map_map, List.forall₂_map_left_iff,
      List.forall₂_map_right_iff]
    exact hall.imp fun _ _ hm => hm.1.symm
  -- distinct names come from distinct keys
  have hkeys : (entries.map Prod.fst).Nodup := by
    rw [hnames] at hdistinct
    exact hdistinct.of_map
  rw [OrderedMap.entries_ofList hkeys]
  exact hall.imp fun _ _ hm => hm.2

/-- Where each member is read as a pair exactly when it was written from it, members with distinct
names are read as the map whose pairs they were written from. -/
theorem map_ofList_eq_ok_iff {read : String × β → Except ε (κ × α)}
    (write : κ × α → String × β) (name : κ → String) {P : κ × α → Prop}
    {members : List (String × β)} (hname : ∀ e, (write e).1 = name e.1)
    (hdistinct : (members.map Prod.fst).Nodup)
    (hread : ∀ m ∈ members, ∀ e, read m = .ok e ↔ P e ∧ write e = m) {map : OrderedMap κ α} :
    (members.mapM read).map OrderedMap.ofList = .ok map ↔
      (∀ e ∈ map.entries, P e) ∧ map.entries.map write = members := by
  constructor
  · intro h
    refine forall₂_written_iff.mp (forall₂_of_map_ofList name hdistinct ?_ h)
    intro m hm e he
    obtain ⟨hP, rfl⟩ := (hread m hm e).mp he
    exact ⟨(hname e).symm, hP, rfl⟩
  · intro h
    rw [(mapM_eq_ok_iff hread).mpr h]
    exact congrArg Except.ok map.ofList_entries

end maps

end CollectionSearch
