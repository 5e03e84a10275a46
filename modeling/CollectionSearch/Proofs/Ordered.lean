import CollectionSearch.Ordered
import Mathlib.Data.List.Nodup
import Mathlib.Data.List.TakeWhile

/-!
# The entries of ordered maps

Which keys a map has after insertions, and which entries it has when they are all new.

* `OrderedMap.before`, `OrderedMap.after` : the entries in front of a key and behind it.
* `OrderedMap.erase` : a map without a key.

**Main statements:** `mem_keys_insert` and `mem_keys_union` for the keys, `get?_eq_some_iff` and
`get?_eq_none_iff` for looking a key up, `get?_union` for doing so in two maps together, and
`entries_ofList` for a map that is made of pairs with distinct keys. `entries_union` says where the
entries of two maps stand, and `union_assoc` that it does not matter which two of three are put
together first. `entries_insert_eq_around` and `entries_erase_eq_around` say where a key is written
and what is left without it.
-/

namespace CollectionSearch

variable {κ α : Type} [DecidableEq κ]

/-! ## Writing pairs into a list -/

/-- New keys are written at the end. -/
theorem setEntry_of_not_mem {k : κ} (a : α) :
    (l : List (κ × α)) → k ∉ l.map Prod.fst → setEntry k a l = l ++ [(k, a)]
  | [], _ => rfl
  | e :: rest, h => by
      rw [List.map_cons, List.mem_cons, not_or] at h
      rw [setEntry_cons, if_neg (Ne.symm h.1), setEntry_of_not_mem a rest h.2, List.cons_append]

/-- Pairs with new and distinct keys are written at the end, in order. -/
theorem foldl_setEntry_of_nodup (l : List (κ × α)) (acc : List (κ × α))
    (h : (acc ++ l).map Prod.fst |>.Nodup) :
    l.foldl (fun acc e => setEntry e.1 e.2 acc) acc = acc ++ l := by
  induction l generalizing acc with
  | nil => rw [List.foldl_nil, List.append_nil]
  | cons e rest ih =>
      have hnew : e.1 ∉ acc.map Prod.fst := by
        intro hmem
        rw [List.map_append, List.map_cons] at h
        exact List.disjoint_of_nodup_append h hmem List.mem_cons_self
      have happend : acc ++ e :: rest = (acc ++ [e]) ++ rest := by
        rw [List.append_assoc, List.singleton_append]
      rw [happend] at h
      rw [List.foldl_cons, setEntry_of_not_mem e.2 acc hnew, ih _ h, happend]

omit [DecidableEq κ] in
/-- Some of the pairs with distinct keys have distinct keys. -/
theorem nodup_keys_filter {l : List (κ × α)} (h : (l.map Prod.fst).Nodup) (p : κ × α → Bool) :
    ((l.filter p).map Prod.fst).Nodup := h.sublist (List.filter_sublist.map Prod.fst)

omit [DecidableEq κ] in
/-- A key does not occur exactly if no pair is of it. -/
theorem not_mem_keys_iff {k : κ} {l : List (κ × α)} :
    k ∉ l.map Prod.fst ↔ ∀ e ∈ l, e.1 ≠ k := by
  simp only [List.mem_map, not_exists, not_and, ne_eq]

/-- No pair of a key is found exactly if the key does not occur. -/
theorem find?_key_eq_none_iff {k : κ} {l : List (κ × α)} :
    (l.find? fun e => e.1 = k) = none ↔ k ∉ l.map Prod.fst := by
  simp only [List.find?_eq_none, not_mem_keys_iff, decide_eq_true_eq, ne_eq]

/-- No pair is left out with a key exactly if the key does not occur. -/
theorem filter_key_eq_self_iff {k : κ} {l : List (κ × α)} :
    l.filter (fun e => e.1 ≠ k) = l ↔ k ∉ l.map Prod.fst := by
  simp only [List.filter_eq_self, not_mem_keys_iff, decide_eq_true_eq]

/-- Of pairs that are written over others the new value is found, if there is one, and else the
old. -/
theorem find?_foldl_setEntry (k : κ) : (l : List (κ × α)) → (l.map Prod.fst).Nodup →
    (acc : List (κ × α)) →
      ((l.foldl (fun acc e => setEntry e.1 e.2 acc) acc).find? fun e => e.1 = k).map Prod.snd =
        ((l.find? fun e => e.1 = k).map Prod.snd).or ((acc.find? fun e => e.1 = k).map Prod.snd)
  | [], _, _ => rfl
  | e :: rest, h, acc => by
      obtain ⟨hnew, hrest⟩ := List.nodup_cons.mp h
      rw [List.foldl_cons, find?_foldl_setEntry k rest hrest]
      by_cases hk : e.1 = k
      · have hnone : rest.find? (fun x => x.1 = k) = none := find?_key_eq_none_iff.mpr (hk ▸ hnew)
        rw [hnone, Option.map_none, Option.none_or, List.find?_cons_of_pos (by simpa using hk),
          ← hk, find?_setEntry_self]
        rfl
      · rw [find?_setEntry_of_ne e.2 (Ne.symm hk), List.find?_cons_of_neg (by simpa using hk)]

/-- Pairs that are written over others leave the keys distinct. -/
theorem nodup_foldl_setEntry (l : List (κ × α)) {acc : List (κ × α)}
    (h : (acc.map Prod.fst).Nodup) :
    ((l.foldl (fun acc e => setEntry e.1 e.2 acc) acc).map Prod.fst).Nodup := by
  induction l generalizing acc with
  | nil => exact h
  | cons e rest ih => exact ih (nodup_setEntry e.1 e.2 acc h)

/-- Pairs written over one with a key in front change its value if they have the key. -/
theorem foldl_setEntry_cons (k : κ) : (l : List (κ × α)) →
    (l.map Prod.fst).Nodup → (a : α) → (acc : List (κ × α)) →
      l.foldl (fun acc e => setEntry e.1 e.2 acc) ((k, a) :: acc) =
        (k, ((l.find? fun e => e.1 = k).map Prod.snd).getD a) ::
          (l.filter fun e => e.1 ≠ k).foldl (fun acc e => setEntry e.1 e.2 acc) acc
  | [], _, _, _ => rfl
  | e :: rest, h, a, acc => by
      obtain ⟨hnew, hrest⟩ := List.nodup_cons.mp h
      rw [List.foldl_cons, setEntry_cons]
      by_cases hk : k = e.1
      · -- the key does not occur again, so the value that is written stays
        have hnone : rest.find? (fun x => x.1 = k) = none := find?_key_eq_none_iff.mpr (hk ▸ hnew)
        rw [if_pos hk, foldl_setEntry_cons k rest hrest, hnone,
          List.find?_cons_of_pos (by simp [hk]), List.filter_cons_of_neg (by simp [hk])]
        rfl
      · rw [if_neg hk, foldl_setEntry_cons k rest hrest,
          List.find?_cons_of_neg (by simp [Ne.symm hk]),
          List.filter_cons_of_pos (by simp [Ne.symm hk]), List.foldl_cons]

/-- A pair of another key is found as if the pairs of one key were not there. -/
theorem find?_filter_key_of_ne {k k' : κ} (hne : k' ≠ k) (l : List (κ × α)) :
    ((l.filter fun e => e.1 ≠ k).find? fun e => e.1 = k') = l.find? fun e => e.1 = k' := by
  rw [List.find?_filter]
  refine congrArg (List.find? · l) (funext fun e => ?_)
  by_cases hk : e.1 = k' <;> simp [hk, hne]

/-- Pairs written over others with distinct keys change the values of these in place, and those with
new keys follow in order. -/
theorem foldl_setEntry_eq_append : (acc : List (κ × α)) → (acc.map Prod.fst).Nodup →
    (l : List (κ × α)) → (l.map Prod.fst).Nodup →
      l.foldl (fun acc e => setEntry e.1 e.2 acc) acc =
        acc.map (fun e => (e.1, ((l.find? fun x => x.1 = e.1).map Prod.snd).getD e.2)) ++
          l.filter fun e => e.1 ∉ acc.map Prod.fst
  | [], _, l, hl => by simpa using foldl_setEntry_of_nodup l [] hl
  | (k, a) :: acc, h, l, hl => by
      obtain ⟨hk, hacc⟩ := List.nodup_cons.mp h
      have hkept : ∀ e ∈ acc, ((l.filter fun x => x.1 ≠ k).find? fun x => x.1 = e.1) =
          l.find? fun x => x.1 = e.1 := fun e he =>
        find?_filter_key_of_ne (not_mem_keys_iff.mp hk e he) l
      have hnew : (l.filter fun e => e.1 ≠ k).filter (fun e => e.1 ∉ acc.map Prod.fst) =
          l.filter fun e => e.1 ∉ ((k, a) :: acc).map Prod.fst := by
        rw [List.filter_filter]
        refine List.filter_congr fun e _ => ?_
        rw [List.map_cons, Bool.eq_iff_iff]
        simp [and_comm]
      -- the first pair takes its value, and the others are written over the rest
      rw [foldl_setEntry_cons k l hl,
        foldl_setEntry_eq_append acc hacc _ (nodup_keys_filter hl _), hnew]
      refine congrArg (List.cons _) (congrArg (· ++ _) (List.map_congr_left fun e he => ?_))
      rw [hkept e he]

/-- Pairs with distinct keys are the same when the same is found under every key. -/
theorem perm_of_find?_key_eq {l l' : List (κ × α)} (h : (l.map Prod.fst).Nodup)
    (h' : (l'.map Prod.fst).Nodup)
    (hfind : ∀ k, (l.find? fun e => e.1 = k).map Prod.snd =
      (l'.find? fun e => e.1 = k).map Prod.snd) : l.Perm l' := by
  refine (List.perm_ext_iff_of_nodup h.of_map h'.of_map).mpr ?_
  rintro ⟨k, a⟩
  rw [← find?_key_eq_some_iff h, ← find?_key_eq_some_iff h', hfind]

/-- The same is found under every key in another order. -/
theorem find?_key_eq_of_perm {l l' : List (κ × α)} (h : (l.map Prod.fst).Nodup) (hperm : l.Perm l')
    (k : κ) : (l.find? fun e => e.1 = k).map Prod.snd =
      (l'.find? fun e => e.1 = k).map Prod.snd := by
  have h' : (l'.map Prod.fst).Nodup := (hperm.map Prod.fst).nodup_iff.mp h
  refine Option.ext fun a => ?_
  rw [find?_key_eq_some_iff h, find?_key_eq_some_iff h', hperm.mem_iff]

/-! ## Around a key -/

/-- A pair is written where its key stands, and at the end if the key is new. -/
theorem setEntry_eq_around (k : κ) (a : α) : (l : List (κ × α)) →
    setEntry k a l =
      l.takeWhile (fun e => e.1 ≠ k) ++ (k, a) :: (l.dropWhile fun e => e.1 ≠ k).tail
  | [] => rfl
  | e :: rest => by
      rw [setEntry_cons]
      by_cases hk : e.1 = k
      · simp [hk]
      · simp [hk, setEntry_eq_around k a rest]

/-- Pairs are those in front of a key, the first one of the key, and the rest. -/
theorem eq_around_key (k : κ) : (l : List (κ × α)) →
    l = l.takeWhile (fun e => e.1 ≠ k) ++ (l.find? fun e => e.1 = k).toList ++
      (l.dropWhile fun e => e.1 ≠ k).tail
  | [] => rfl
  | e :: rest => by
      by_cases hk : e.1 = k
      · simp [hk]
      · have ih := eq_around_key k rest
        rw [List.find?_cons_of_neg (by simpa using hk)]
        simpa [hk] using ih

/-- Of pairs with distinct keys those are left without one key that stand around it. -/
theorem filter_key_eq_around {k : κ} : {l : List (κ × α)} → (l.map Prod.fst).Nodup →
    l.filter (fun e => e.1 ≠ k) =
      l.takeWhile (fun e => e.1 ≠ k) ++ (l.dropWhile fun e => e.1 ≠ k).tail
  | [], _ => rfl
  | e :: rest, h => by
      rw [List.map_cons, List.nodup_cons] at h
      by_cases hk : e.1 = k
      · -- the key does not occur again
        have hrest : rest.filter (fun e => e.1 ≠ k) = rest := filter_key_eq_self_iff.mpr (hk ▸ h.1)
        simpa [hk] using hrest
      · simpa [hk] using filter_key_eq_around h.2

namespace OrderedMap

/-! ## Keys -/

/-- The keys after an insertion. -/
theorem mem_keys_insert (m : OrderedMap κ α) (k k' : κ) (a : α) :
    k' ∈ (m.insert k a).keys ↔ k' ∈ m.keys ∨ k' = k := by
  by_cases hk : k ∈ m.keys
  · rw [keys_insert_of_mem a hk]
    exact ⟨.inl, fun h => h.elim id fun h => h ▸ hk⟩
  · rw [keys_insert_of_not_mem a hk, List.mem_append, List.mem_singleton]

/-- The keys after several insertions. -/
theorem mem_keys_foldl (k : κ) (l : List (κ × α)) (m : OrderedMap κ α) :
    k ∈ (l.foldl (fun acc e => acc.insert e.1 e.2) m).keys ↔ k ∈ m.keys ∨ k ∈ l.map Prod.fst := by
  induction l generalizing m with
  | nil => simp
  | cons e rest ih =>
      rw [List.foldl_cons, ih, List.map_cons, List.mem_cons, ← or_assoc]
      exact or_congr_left (m.mem_keys_insert e.1 k e.2)

/-- The keys of two maps together. -/
theorem mem_keys_union (m n : OrderedMap κ α) (k : κ) :
    k ∈ (m.union n).keys ↔ k ∈ m.keys ∨ k ∈ n.keys := mem_keys_foldl k n.entries m

/-! ## Look-ups -/

/-- Exactly the keys have a value. -/
theorem isSome_get?_iff (m : OrderedMap κ α) (k : κ) : (m.get? k).isSome = true ↔ k ∈ m.keys := by
  rw [get?, Option.isSome_map, Option.isSome_iff_ne_none, ne_eq, find?_key_eq_none_iff, not_not,
    keys]

/-- Nothing is found under the keys that are not there. -/
theorem get?_eq_none_iff (m : OrderedMap κ α) {k : κ} : m.get? k = none ↔ k ∉ m.keys := by
  rw [← m.isSome_get?_iff, Option.not_isSome_iff_eq_none]

/-- The value of a key is that of its entry. -/
theorem get?_eq_some_iff (m : OrderedMap κ α) {k : κ} {a : α} :
    m.get? k = some a ↔ (k, a) ∈ m.entries := find?_key_eq_some_iff m.distinct

/-! ## Entries -/

/-- The entries after several insertions. -/
theorem entries_foldl_insert (l : List (κ × α)) (m : OrderedMap κ α) :
    (l.foldl (fun acc e => acc.insert e.1 e.2) m).entries =
      l.foldl (fun acc e => setEntry e.1 e.2 acc) m.entries := by
  induction l generalizing m with
  | nil => rfl
  | cons e rest ih => exact ih (m.insert e.1 e.2)

/-- Of two maps together the second has the say. -/
theorem get?_union (m n : OrderedMap κ α) (k : κ) :
    (m.union n).get? k = (n.get? k).or (m.get? k) := by
  rw [get?, union, entries_foldl_insert]
  exact find?_foldl_setEntry k n.entries n.distinct m.entries

/-- A map that is made of pairs with distinct keys has these pairs. -/
theorem entries_ofList {l : List (κ × α)} (h : (l.map Prod.fst).Nodup) :
    (ofList l).entries = l :=
  (entries_foldl_insert l empty).trans (foldl_setEntry_of_nodup l [] h)

/-- A map is made of its pairs. -/
theorem ofList_entries (m : OrderedMap κ α) : ofList m.entries = m :=
  OrderedMap.ext (entries_ofList m.distinct)

@[simp] theorem empty_union (m : OrderedMap κ α) : empty.union m = m := ofList_entries m

/-- Of two maps without a common key the second follows the first. -/
theorem entries_union_of_disjoint {m n : OrderedMap κ α} (h : ∀ k ∈ n.keys, k ∉ m.keys) :
    (m.union n).entries = m.entries ++ n.entries := by
  rw [union, entries_foldl_insert]
  refine foldl_setEntry_of_nodup n.entries m.entries ?_
  rw [List.map_append]
  exact m.distinct.append n.distinct fun k hm hn => h k hn hm

/-- The entries are the keys with what is found under them. -/
theorem entries_eq_filterMap (m : OrderedMap κ α) :
    m.entries = m.keys.filterMap fun k => (m.get? k).map (Prod.mk k) := by
  rw [keys, List.filterMap_map]
  refine (List.filterMap_some (l := m.entries)).symm.trans (List.filterMap_congr fun e he => ?_)
  rw [Function.comp_apply, m.get?_eq_some_iff.mpr he, Option.map_some]

/-- Maps with the same keys in the same order and the same values are the same. -/
theorem ext_get? {m n : OrderedMap κ α} (hkeys : m.keys = n.keys)
    (hget : ∀ k, m.get? k = n.get? k) : m = n := by
  refine OrderedMap.ext ?_
  rw [entries_eq_filterMap, entries_eq_filterMap n, hkeys]
  simp only [hget]

/-! ## Two maps together -/

/-- The entries of the first keep their places, with the values of the second where it has the key,
and the new entries of the second follow in order. -/
theorem entries_union (m n : OrderedMap κ α) :
    (m.union n).entries =
      m.entries.map (fun e => (e.1, (n.get? e.1).getD e.2)) ++
        n.entries.filter fun e => e.1 ∉ m.keys := by
  rw [union, entries_foldl_insert, foldl_setEntry_eq_append _ m.distinct _ n.distinct]
  rfl

/-- The keys of the first keep their places, and the new ones of the second follow in order. -/
theorem keys_union (m n : OrderedMap κ α) :
    (m.union n).keys = m.keys ++ n.keys.filter fun k => k ∉ m.keys := by
  have hold : (m.entries.map fun e => (e.1, (n.get? e.1).getD e.2)).map Prod.fst = m.keys := by
    rw [List.map_map]
    rfl
  have hnew : (n.entries.filter fun e => e.1 ∉ m.keys).map Prod.fst =
      n.keys.filter fun k => k ∉ m.keys := by
    rw [keys, keys, List.filter_map]
    rfl
  rw [keys, entries_union, List.map_append, hold, hnew]

@[simp] theorem union_empty (m : OrderedMap κ α) : m.union empty = m := rfl

/-- A map written over itself stays as it is. -/
@[simp] theorem union_self (m : OrderedMap κ α) : m.union m = m := by
  refine ext_get? ?_ fun k => ?_
  · have hnone : (m.keys.filter fun k => k ∉ m.keys) = [] := by
      simp [List.filter_eq_nil_iff]
    rw [keys_union, hnone, List.append_nil]
  · rw [get?_union, Option.or_self]

/-- It does not matter which two of three maps are put together first. -/
theorem union_assoc (m n o : OrderedMap κ α) : (m.union n).union o = m.union (n.union o) := by
  refine ext_get? ?_ fun k => ?_
  · -- what is new to the first two is new to the second and then to the first
    have hnew : (o.keys.filter fun k => k ∉ (m.union n).keys) =
        (o.keys.filter fun k => k ∉ n.keys).filter fun k => k ∉ m.keys := by
      rw [List.filter_filter]
      refine List.filter_congr fun k _ => ?_
      simp only [mem_keys_union, not_or, Bool.decide_and]
    calc ((m.union n).union o).keys
        = m.keys ++ (n.keys.filter fun k => k ∉ m.keys) ++
            (o.keys.filter fun k => k ∉ n.keys).filter (fun k => k ∉ m.keys) := by
          rw [keys_union, hnew, keys_union]
      _ = m.keys ++ (n.union o).keys.filter (fun k => k ∉ m.keys) := by
          rw [keys_union n, List.filter_append, List.append_assoc]
      _ = (m.union (n.union o)).keys := (keys_union m _).symm
  · rw [get?_union, get?_union, get?_union, get?_union, Option.or_assoc]

/-! ## Around a key of a map -/

section around

variable (m : OrderedMap κ α) (k : κ)

/-- The entries in front of a key, all of them if the key is not there. -/
def before : List (κ × α) := m.entries.takeWhile fun e => e.1 ≠ k

/-- The entries behind a key, none if the key is not there. -/
def after : List (κ × α) := (m.entries.dropWhile fun e => e.1 ≠ k).tail

/-- The map without a key. -/
def erase : OrderedMap κ α where
  entries := m.entries.filter fun e => e.1 ≠ k
  distinct := nodup_keys_filter m.distinct _

/-- The entry of a key stands between those in front of it and those behind it. -/
theorem entries_eq_around :
    m.entries = m.before k ++ ((m.get? k).map (Prod.mk k)).toList ++ m.after k := by
  have hentry : (m.get? k).map (Prod.mk k) = m.entries.find? fun e => e.1 = k := by
    rcases hfind : m.entries.find? fun e => e.1 = k with _ | e
    · simp [get?, hfind]
    · have hkey : e.1 = k := by simpa using List.find?_some hfind
      rw [get?, hfind, Option.map_some, Option.map_some, ← hkey]
  rw [hentry]
  exact eq_around_key k m.entries

/-- A value is written between them. -/
theorem entries_insert_eq_around (a : α) :
    (m.insert k a).entries = m.before k ++ (k, a) :: m.after k :=
  setEntry_eq_around k a m.entries

/-- Without the key they are left. -/
theorem entries_erase_eq_around : (m.erase k).entries = m.before k ++ m.after k :=
  filter_key_eq_around m.distinct

variable {m k}

/-- All entries stand in front of a key that is not there. -/
theorem before_of_not_mem (h : k ∉ m.keys) : m.before k = m.entries := by
  refine List.takeWhile_eq_self_iff.mpr fun e he => ?_
  exact decide_eq_true (not_mem_keys_iff.mp h e he)

theorem after_of_not_mem (h : k ∉ m.keys) : m.after k = [] := by
  have hdrop : (m.entries.dropWhile fun e => e.1 ≠ k) = [] := by
    rw [List.dropWhile_eq_nil_iff]
    exact fun e he => decide_eq_true (not_mem_keys_iff.mp h e he)
  rw [after, hdrop, List.tail_nil]

end around

end OrderedMap

end CollectionSearch
