import CollectionSearch.Criteria.QueryBy
import CollectionSearch.Filter.Basic
import CollectionSearch.Proofs.Ordered
import CollectionSearch.Response.Basic
import Mathlib.Data.Finset.Card
import Mathlib.Data.List.Sort

/-!
# What insertions leave

Pairs are inserted into a new map one after the other. Whatever the pairs are, and however often a
key comes again, each key stands once, where it came first, with the value that came last. Filters,
maps of comparisons, weighted fields and tables of facets are all made in this way.

* `lastValue?` : the value that came last for a key.
* `OrderedMap.LeftBy` : whether a map is what pairs leave that are inserted in order.
* `OrderedMap.InsertsInOrder` : whether a way to insert pairs leaves such maps.

**Main statements:** `LeftBy.insert` is one insertion and `leftBy_foldl` all of them, `LeftBy.ext`
says that nothing is left open, and `inserts_in_order` is the law for the four kinds of maps, with
what it says of facets.
-/

namespace CollectionSearch

variable {κ α : Type} [DecidableEq κ]

/-! ## Pairs in a row -/

/-- The value of the last pair of a key. -/
def lastValue? (l : List (κ × α)) (k : κ) : Option α :=
  (l.reverse.find? fun e => e.1 = k).map Prod.snd

/-- The value of the pair that comes last counts for its key. -/
theorem lastValue?_concat_self (l : List (κ × α)) (k : κ) (a : α) :
    lastValue? (l ++ [(k, a)]) k = some a := by
  simp [lastValue?]

/-- It does not count for other keys. -/
theorem lastValue?_concat_of_ne (l : List (κ × α)) {k k' : κ} (a : α) (hne : k' ≠ k) :
    lastValue? (l ++ [(k, a)]) k' = lastValue? l k' := by
  rw [lastValue?, List.reverse_append, List.reverse_singleton, List.singleton_append,
    List.find?_cons_of_neg (by simpa using hne.symm)]
  rfl

/-- A value came last for a key if the key does not come again after it. -/
theorem lastValue?_eq_some_iff {l : List (κ × α)} {k : κ} {a : α} :
    lastValue? l k = some a ↔
      ∃ before after, l = before ++ (k, a) :: after ∧ k ∉ after.map Prod.fst := by
  constructor
  · intro h
    obtain ⟨e, he, rfl⟩ := Option.map_eq_some_iff.mp h
    obtain ⟨hk, after, before, hl, hafter⟩ := List.find?_eq_some_iff_append.mp he
    obtain rfl : e.1 = k := by simpa using hk
    refine ⟨before.reverse, after.reverse, ?_, ?_⟩
    · rw [← List.reverse_inj, hl]
      simp
    · rw [not_mem_keys_iff]
      intro e' he'
      simpa using hafter e' (List.mem_reverse.mp he')
  · rintro ⟨before, after, rfl, hafter⟩
    have hnone : (after.reverse.find? fun e => e.1 = k) = none := by
      rw [find?_key_eq_none_iff, List.map_reverse, List.mem_reverse]
      exact hafter
    rw [lastValue?, List.reverse_append, List.reverse_cons, List.append_assoc, List.find?_append,
      hnone]
    simp

namespace OrderedMap

/-! ## What is left -/

/-- Whether a map is what pairs leave that are inserted into a new map in order. -/
structure LeftBy (l : List (κ × α)) (m : OrderedMap κ α) : Prop where
  /-- No key stands twice. -/
  distinct : m.keys.Nodup
  /-- The keys are those of the pairs. -/
  mem_keys_iff : ∀ k, k ∈ m.keys ↔ k ∈ l.map Prod.fst
  /-- A key stands in front of those that came later for the first time. -/
  inOrder : m.keys.Pairwise fun k k' => (l.map Prod.fst).idxOf k < (l.map Prod.fst).idxOf k'
  /-- Under each key the value is found that came last. -/
  get?_eq : ∀ k, m.get? k = lastValue? l k

/-- No pairs leave the new map. -/
theorem leftBy_empty : LeftBy [] (empty : OrderedMap κ α) where
  distinct := List.nodup_nil
  mem_keys_iff := fun _ => Iff.rfl
  inOrder := List.Pairwise.nil
  get?_eq := fun _ => rfl

variable {l : List (κ × α)} {m n : OrderedMap κ α}

/-- The keys come in the same order when one more pair comes. -/
theorem LeftBy.inOrder_insert (h : LeftBy l m) (k : κ) (a : α) :
    (m.insert k a).keys.Pairwise fun x y =>
      ((l ++ [(k, a)]).map Prod.fst).idxOf x < ((l ++ [(k, a)]).map Prod.fst).idxOf y := by
  -- a key that is there came first among the earlier pairs
  have hold : ∀ x ∈ m.keys,
      ((l ++ [(k, a)]).map Prod.fst).idxOf x = (l.map Prod.fst).idxOf x := by
    intro x hx
    rw [List.map_append]
    exact List.idxOf_append_of_mem ((h.mem_keys_iff x).mp hx)
  have hkept : m.keys.Pairwise fun x y =>
      ((l ++ [(k, a)]).map Prod.fst).idxOf x < ((l ++ [(k, a)]).map Prod.fst).idxOf y := by
    refine h.inOrder.imp_of_mem fun hx hy hlt => ?_
    rw [hold _ hx, hold _ hy]
    exact hlt
  by_cases hk : k ∈ m.keys
  · rw [keys_insert_of_mem a hk]
    exact hkept
  · rw [keys_insert_of_not_mem a hk]
    refine List.pairwise_append.mpr ⟨hkept, List.pairwise_singleton _ _, ?_⟩
    intro x hx y hy
    obtain rfl := List.mem_singleton.mp hy
    have hnew : y ∉ l.map Prod.fst := fun hmem => hk ((h.mem_keys_iff y).mpr hmem)
    rw [hold x hx, List.map_append, List.idxOf_append_of_notMem hnew]
    exact Nat.lt_add_right _ (List.idxOf_lt_length_of_mem ((h.mem_keys_iff x).mp hx))

/-- One more pair is inserted. -/
theorem LeftBy.insert (h : LeftBy l m) (k : κ) (a : α) :
    LeftBy (l ++ [(k, a)]) (m.insert k a) where
  distinct := (m.insert k a).distinct
  mem_keys_iff := by
    intro x
    rw [mem_keys_insert, h.mem_keys_iff, List.map_append, List.mem_append, List.map_singleton,
      List.mem_singleton]
  inOrder := h.inOrder_insert k a
  get?_eq := by
    intro x
    by_cases hx : x = k
    · subst hx
      rw [get?_insert_self, lastValue?_concat_self]
    · rw [get?_insert_of_ne m a hx, lastValue?_concat_of_ne l a hx, h.get?_eq]

/-- **Each key stands where it came first, with the value that came last**, after any pairs. -/
theorem leftBy_foldl (l : List (κ × α)) :
    LeftBy l (l.foldl (fun m e => m.insert e.1 e.2) empty) := by
  induction l using List.reverseRecOn with
  | nil => exact leftBy_empty
  | append_singleton rest e ih =>
      rw [List.foldl_append]
      exact ih.insert e.1 e.2

/-- Pairs leave one map only. -/
theorem LeftBy.ext (hm : LeftBy l m) (hn : LeftBy l n) : m = n := by
  have hperm : m.keys.Perm n.keys := by
    refine (List.perm_ext_iff_of_nodup hm.distinct hn.distinct).mpr fun k => ?_
    rw [hm.mem_keys_iff, hn.mem_keys_iff]
  have hkeys : m.keys = n.keys :=
    hperm.eq_of_pairwise (fun _ _ _ _ hlt hgt => absurd hgt (Nat.lt_asymm hlt)) hm.inOrder
      hn.inOrder
  refine ext_get? hkeys fun k => ?_
  rw [hm.get?_eq, hn.get?_eq]

/-- There are as many entries as different keys. -/
theorem LeftBy.size_eq (h : LeftBy l m) : m.size = (l.map Prod.fst).toFinset.card := by
  have hkeys : m.keys.toFinset = (l.map Prod.fst).toFinset := by
    ext k
    rw [List.mem_toFinset, List.mem_toFinset, h.mem_keys_iff]
  rw [← hkeys, List.toFinset_card_of_nodup h.distinct, size, keys, List.length_map]

/-- What is found under a key is the value that came last. -/
theorem LeftBy.get?_eq_some_iff (h : LeftBy l m) {k : κ} {a : α} :
    m.get? k = some a ↔
      ∃ before after, l = before ++ (k, a) :: after ∧ k ∉ after.map Prod.fst := by
  rw [h.get?_eq, lastValue?_eq_some_iff]

/-- Nothing is found under a key that never came. -/
theorem LeftBy.get?_eq_none_iff (h : LeftBy l m) {k : κ} :
    m.get? k = none ↔ k ∉ l.map Prod.fst := by
  rw [OrderedMap.get?_eq_none_iff, h.mem_keys_iff]

/-- Whether a way to insert pairs into a first map always leaves the map with each key where it came
first and with the value that came last, that is, one entry for each of the different keys. -/
def InsertsInOrder (first : OrderedMap κ α) (add : OrderedMap κ α → κ → α → OrderedMap κ α) :
    Prop :=
  ∀ l, let m := l.foldl (fun m e => add m e.1 e.2) first
    LeftBy l m ∧ (∀ n, LeftBy l n → n = m) ∧ m.size = (l.map Prod.fst).toFinset.card

theorem insertsInOrder_insert : InsertsInOrder (empty : OrderedMap κ α) insert :=
  fun l => ⟨leftBy_foldl l, fun _ hn => hn.ext (leftBy_foldl l), (leftBy_foldl l).size_eq⟩

end OrderedMap

/-! ## The four kinds of maps -/

open OrderedMap

/-- There are no more comparisons in a map than there are at all. -/
theorem OperatorMap.size_le (map : OperatorMap) : map.size ≤ 7 := by
  have hsub : map.keys ⊆ FilterOperator.all := by
    intro op _
    cases op <;> decide
  have hle : map.keys.length ≤ FilterOperator.all.length :=
    (map.distinct.subperm hsub).length_le
  rwa [keys, List.length_map] at hle

/-- The counts of a field are those that the table has. -/
theorem Facets.counts_eq_ok_iff (t : Facets) (field : String) (counts : List FacetCount) :
    t.counts field = .ok counts ↔ t.get? field = some counts := by
  unfold Facets.counts
  cases t.get? field <;> simp

/-- The table of an answer is what its blocks leave. -/
theorem SearchResponse.leftBy_facets {D : Type} (r : SearchResponse D) :
    LeftBy ((r.facetBlocks.getD []).map fun b => (b.field, b.counts)) r.facets :=
  leftBy_foldl _

/-- In it a field has the counts of its last block, as they are. -/
theorem SearchResponse.get?_facets_eq_some_iff {D : Type} (r : SearchResponse D) (field : String)
    (counts : List FacetCount) :
    r.facets.get? field = some counts ↔
      ∃ before b after, r.facetBlocks.getD [] = before ++ b :: after ∧ b.field = field ∧
        b.counts = counts ∧ ∀ b' ∈ after, b'.field ≠ field := by
  rw [r.leftBy_facets.get?_eq_some_iff]
  constructor
  · rintro ⟨before, after, hpairs, hafter⟩
    obtain ⟨blocks, rest, hblocks, -, hrest⟩ := List.map_eq_append_iff.mp hpairs
    obtain ⟨b, later, rfl, hb, rfl⟩ := List.map_eq_cons_iff.mp hrest
    obtain ⟨rfl, rfl⟩ := Prod.mk.inj hb
    refine ⟨blocks, b, later, hblocks, rfl, rfl, fun b' hb' heq => hafter ?_⟩
    rw [List.map_map]
    exact List.mem_map.mpr ⟨b', hb', heq⟩
  · rintro ⟨before, b, after, hblocks, rfl, rfl, hafter⟩
    rw [hblocks, List.map_append, List.map_cons]
    refine ⟨_, _, rfl, not_mem_keys_iff.mpr ?_⟩
    rw [List.forall_mem_map]
    exact hafter

/-- **Filters, maps of comparisons, weighted fields and tables of facets have each key where it was
inserted first, with the value that was inserted last.** In a table of facets the counts of a field
are found if it was inserted, and are missing exactly if nothing is found. The table of an answer is
what its blocks leave, each with its counts as they are, and without blocks it is empty. -/
theorem inserts_in_order :
    InsertsInOrder Filter.empty OrderedMap.insert ∧
      (InsertsInOrder (OrderedMap.empty : OperatorMap) OrderedMap.insert ∧
        ∀ map : OperatorMap, map.size ≤ 7) ∧
      InsertsInOrder QueryBy.empty QueryBy.field ∧
      (InsertsInOrder (OrderedMap.empty : Facets) OrderedMap.insert ∧
        (∀ (l : List (String × List FacetCount)) (field : String),
          let t : Facets := l.foldl (fun t e => t.insert e.1 e.2) .empty
          (∀ counts, t.get? field = some counts ↔
              ∃ before after, l = before ++ (field, counts) :: after ∧
                field ∉ after.map Prod.fst) ∧
            (t.get? field = none ↔ field ∉ l.map Prod.fst)) ∧
        ∀ (t : Facets) (field : String),
          (t.counts field = .error ⟨field⟩ ↔ t.get? field = none) ∧
            ∀ counts, t.counts field = .ok counts ↔ t.get? field = some counts) ∧
      ∀ (D : Type) (r : SearchResponse D),
        r.facets = (r.facetBlocks.getD []).foldl (fun t b => t.insert b.field b.counts) .empty ∧
          { r with facetBlocks := none }.facets = .empty ∧
          ∀ field counts, r.facets.get? field = some counts ↔
            ∃ before b after, r.facetBlocks.getD [] = before ++ b :: after ∧ b.field = field ∧
              b.counts = counts ∧ ∀ b' ∈ after, b'.field ≠ field := by
  refine ⟨insertsInOrder_insert, ⟨insertsInOrder_insert, OperatorMap.size_le⟩,
    insertsInOrder_insert, ⟨insertsInOrder_insert, fun l field => ?found, fun t field => ?counted⟩,
    fun D r => ?answer⟩
  case found =>
    have h := leftBy_foldl l
    exact ⟨fun counts => h.get?_eq_some_iff, h.get?_eq_none_iff⟩
  case counted => exact ⟨t.counts_eq_error_iff field, t.counts_eq_ok_iff field⟩
  case answer => exact ⟨List.foldl_map, rfl, r.get?_facets_eq_some_iff⟩

/-- A field that comes again keeps its place and takes the later weight. -/
example :
    ((((QueryBy.empty.field "name" 2).field "brand" 1).field "size" 3).field "name" 5).entries =
      [("name", 5), ("brand", 1), ("size", 3)] := by decide

end CollectionSearch
