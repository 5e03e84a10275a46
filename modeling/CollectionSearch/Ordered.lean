/-!
# Ordered maps

A list of key and value pairs with pairwise distinct keys, in the order in which the keys were
first inserted. Inserting a key that is present replaces its value and keeps its place. Filters,
operator maps, weighted field lists, facet tables and free parameters are all of this type.

* `OrderedMap` : the entries together with the proof that their keys are distinct.
* `OrderedMap.insert`, `OrderedMap.ofList`, `OrderedMap.union` : the ways to build one.
* `OrderedMap.get?` : the value of a key.

**Main statements:** `get?_insert_self`, `get?_insert_of_ne`, `keys_insert_of_mem` and
`keys_insert_of_not_mem` say what one insertion does to the values and to the order.
-/

namespace CollectionSearch

variable {κ α : Type} [DecidableEq κ]

/-! ## Writing one pair into a list -/

/-- Sets the value of a key: in place when the key occurs, else at the end. -/
def setEntry (k : κ) (a : α) : List (κ × α) → List (κ × α)
  | [] => [(k, a)]
  | (k', a') :: rest => if k' = k then (k', a) :: rest else (k', a') :: setEntry k a rest

@[simp] theorem setEntry_nil (k : κ) (a : α) : setEntry k a [] = [(k, a)] := rfl

theorem setEntry_cons (k : κ) (a : α) (e : κ × α) (rest : List (κ × α)) :
    setEntry k a (e :: rest) =
      if e.1 = k then (e.1, a) :: rest else e :: setEntry k a rest := rfl

/-- A key that occurs is not moved: the list of keys stays as it is. -/
theorem keys_setEntry_of_mem {k : κ} (a : α) :
    (l : List (κ × α)) → k ∈ l.map Prod.fst → (setEntry k a l).map Prod.fst = l.map Prod.fst
  | [], h => absurd h List.not_mem_nil
  | e :: rest, h => by
      by_cases hk : e.1 = k
      · simp [setEntry_cons, hk]
      · have h' : k ∈ rest.map Prod.fst := by
          rcases List.mem_cons.mp h with rfl | h'
          · exact absurd rfl hk
          · exact h'
        simp [setEntry_cons, hk, keys_setEntry_of_mem a rest h']

/-- A new key goes to the end. -/
theorem keys_setEntry_of_not_mem {k : κ} (a : α) :
    (l : List (κ × α)) → k ∉ l.map Prod.fst →
      (setEntry k a l).map Prod.fst = l.map Prod.fst ++ [k]
  | [], _ => rfl
  | e :: rest, h => by
      have hk : e.1 ≠ k := fun hk => h (by simp [hk])
      have h' : k ∉ rest.map Prod.fst := fun h' => h (List.mem_cons_of_mem _ h')
      simp [setEntry_cons, hk, keys_setEntry_of_not_mem a rest h']

/-- Writing a pair keeps the keys distinct. -/
theorem nodup_setEntry (k : κ) (a : α) (l : List (κ × α)) (h : (l.map Prod.fst).Nodup) :
    ((setEntry k a l).map Prod.fst).Nodup := by
  by_cases hk : k ∈ l.map Prod.fst
  · rw [keys_setEntry_of_mem a l hk]
    exact h
  · rw [keys_setEntry_of_not_mem a l hk]
    exact List.nodup_append.mpr ⟨h, by simp, by
      intro x hx y hy
      rw [List.mem_singleton] at hy
      subst hy
      exact fun hxy => hk (hxy ▸ hx)⟩

/-- Under the key that is written its value is found. -/
theorem find?_setEntry_self (k : κ) (a : α) :
    (l : List (κ × α)) → ((setEntry k a l).find? fun e => e.1 = k).map Prod.snd = some a
  | [] => by simp
  | e :: rest => by
      by_cases hk : e.1 = k
      · simp [setEntry_cons, hk]
      · simp [setEntry_cons, hk, find?_setEntry_self k a rest]

/-- Writing one key leaves what is found under the others. -/
theorem find?_setEntry_of_ne {k k' : κ} (a : α) (hne : k' ≠ k) :
    (l : List (κ × α)) →
      ((setEntry k a l).find? fun e => e.1 = k') = l.find? fun e => e.1 = k'
  | [] => by rw [setEntry_nil, List.find?_cons_of_neg (by simpa using hne.symm)]
  | e :: rest => by
      by_cases hk : e.1 = k
      · have he : e.1 ≠ k' := fun h => hne (h ▸ hk)
        rw [setEntry_cons, if_pos hk, List.find?_cons_of_neg (by simpa using he),
          List.find?_cons_of_neg (by simpa using he)]
      · rw [setEntry_cons, if_neg hk, List.find?_cons, List.find?_cons,
          find?_setEntry_of_ne a hne rest]

/-- A look-up among pairs with distinct keys finds exactly the pairs. -/
theorem find?_key_eq_some_iff {k : κ} {a : α} :
    {l : List (κ × α)} → (l.map Prod.fst).Nodup →
      ((l.find? fun e => e.1 = k).map Prod.snd = some a ↔ (k, a) ∈ l)
  | [], _ => iff_of_false nofun List.not_mem_nil
  | (k', a') :: rest, h => by
      rw [List.map_cons, List.nodup_cons] at h
      by_cases hk : k' = k
      · subst hk
        have hrest : (k', a) ∉ rest := fun hmem => h.1 (List.mem_map.mpr ⟨_, hmem, rfl⟩)
        rw [List.find?_cons_of_pos (by simp), List.mem_cons, or_iff_left hrest]
        simp [eq_comm]
      · have hne : (k, a) ≠ (k', a') := fun heq => hk (congrArg Prod.fst heq).symm
        rw [List.find?_cons_of_neg (by simpa using hk), List.mem_cons, or_iff_right hne]
        exact find?_key_eq_some_iff h.2

/-! ## The type -/

/-- Pairs with distinct keys, in order of first insertion. -/
structure OrderedMap (κ α : Type) where
  /-- The pairs, in order. -/
  entries : List (κ × α)
  /-- No key occurs twice. -/
  distinct : (entries.map Prod.fst).Nodup
  deriving DecidableEq

namespace OrderedMap

/-- The map without entries. -/
def empty : OrderedMap κ α := ⟨[], List.nodup_nil⟩

/-- The keys, in order. -/
def keys (m : OrderedMap κ α) : List κ := m.entries.map Prod.fst

/-- The number of entries. -/
def size (m : OrderedMap κ α) : Nat := m.entries.length

/-- Whether there are no entries. -/
def isEmpty (m : OrderedMap κ α) : Bool := m.entries.isEmpty

/-- Sets the value of a key. A key that is present keeps its place. -/
def insert (m : OrderedMap κ α) (k : κ) (a : α) : OrderedMap κ α :=
  ⟨setEntry k a m.entries, nodup_setEntry k a m.entries m.distinct⟩

/-- Inserts every entry of the second map into the first, in order. -/
def union (m n : OrderedMap κ α) : OrderedMap κ α :=
  n.entries.foldl (fun acc e => acc.insert e.1 e.2) m

/-- The map that a sequence of insertions into the empty map leaves. -/
def ofList (l : List (κ × α)) : OrderedMap κ α :=
  l.foldl (fun acc e => acc.insert e.1 e.2) empty

/-- The value of a key, if the key is present. -/
def get? (m : OrderedMap κ α) (k : κ) : Option α :=
  (m.entries.find? fun e => e.1 = k).map Prod.snd

/-! ## Lemmas -/

omit [DecidableEq κ] in
@[ext] theorem ext {m n : OrderedMap κ α} (h : m.entries = n.entries) : m = n := by
  cases m
  cases n
  cases h
  rfl

omit [DecidableEq κ] in
@[simp] theorem entries_empty : (empty : OrderedMap κ α).entries = [] := rfl

@[simp] theorem entries_insert (m : OrderedMap κ α) (k : κ) (a : α) :
    (m.insert k a).entries = setEntry k a m.entries := rfl

@[simp] theorem ofList_nil : ofList ([] : List (κ × α)) = empty := rfl

theorem keys_insert_of_mem {m : OrderedMap κ α} {k : κ} (a : α) (h : k ∈ m.keys) :
    (m.insert k a).keys = m.keys := keys_setEntry_of_mem a m.entries h

theorem keys_insert_of_not_mem {m : OrderedMap κ α} {k : κ} (a : α) (h : k ∉ m.keys) :
    (m.insert k a).keys = m.keys ++ [k] := keys_setEntry_of_not_mem a m.entries h

/-- A look-up finds the value that was just written. -/
theorem get?_insert_self (m : OrderedMap κ α) (k : κ) (a : α) :
    (m.insert k a).get? k = some a := find?_setEntry_self k a m.entries

/-- Writing one key leaves the others as they were. -/
theorem get?_insert_of_ne (m : OrderedMap κ α) {k k' : κ} (a : α) (hne : k' ≠ k) :
    (m.insert k a).get? k' = m.get? k' :=
  congrArg (Option.map Prod.snd) (find?_setEntry_of_ne a hne m.entries)

end OrderedMap

end CollectionSearch
