import CollectionSearch.Proofs.Criteria.Overrides

/-!
# Merging search parameters

What is set in the second of two sets of parameters is written over the first. Known parameters are
slots of their own. Free ones stand in the order in which their names came up first, so that one
that is written over keeps its place.

* `SearchParams.WrittenOver` : what parameters written over others must be.

**Main statements:** `writtenOver_iff` says that merging is the only way to fulfil that,
`merge_assoc` and `merge_self` that neither the grouping of several sets nor a repetition matters,
and `merge_idempotent_monoid` puts them together with what that means for overrides in layers.
-/

namespace CollectionSearch

namespace SearchParams

/-- Parameters are the same when the known ones are set alike and the free ones are the same. -/
theorem ext_known {a b : SearchParams} (hknown : ∀ p, a.known p = b.known p)
    (hextra : a.extra = b.extra) : a = b := by
  obtain ⟨known, extra⟩ := a
  obtain ⟨known', extra'⟩ := b
  rw [mk.injEq]
  exact ⟨funext hknown, hextra⟩

/-! ## The laws of merging -/

/-- It does not matter which two of three sets of parameters are merged first. -/
theorem merge_assoc (a b c : SearchParams) : (a.merge b).merge c = a.merge (b.merge c) := by
  apply ext_known
  · intro p
    simp only [known_merge, Option.or_assoc]
  · simp only [extra_merge, OrderedMap.union_assoc]

/-- Parameters written over none are as they are. -/
@[simp] theorem empty_merge (a : SearchParams) : empty.merge a = a := by
  apply ext_known
  · intro p
    exact Option.or_none
  · exact OrderedMap.empty_union a.extra

/-- Writing none over parameters leaves them as they are. -/
@[simp] theorem merge_empty (a : SearchParams) : a.merge empty = a := by
  apply ext_known
  · intro p
    exact Option.none_or
  · exact OrderedMap.union_empty a.extra

/-- Parameters written over themselves are as they are. -/
@[simp] theorem merge_self (a : SearchParams) : a.merge a = a := by
  apply ext_known
  · intro p
    exact Option.or_self
  · exact OrderedMap.union_self a.extra

/-- Layers that are written over a merge can be merged into its second part. -/
theorem foldl_merge (a b : SearchParams) (layers : List SearchParams) :
    layers.foldl merge (a.merge b) = a.merge (layers.foldl merge b) := by
  induction layers generalizing b with
  | nil => rfl
  | cons c rest ih => rw [List.foldl_cons, merge_assoc, ih, List.foldl_cons]

/-! ## The last writer -/

/-- Whether parameters are those of two sets, the second written over the first. -/
structure WrittenOver (a b merged : SearchParams) : Prop where
  /-- A known parameter that is set in the second has its value there. -/
  known_of_some : ∀ p v, b.known p = some v → merged.known p = some v
  /-- A known parameter that is not has that of the first. -/
  known_of_none : ∀ p, b.known p = none → merged.known p = a.known p
  /-- A free parameter of the second has its value there. -/
  extra_of_some : ∀ name j, b.extra.get? name = some j → merged.extra.get? name = some j
  /-- Under any other name is what the first has there. -/
  extra_of_none : ∀ name, b.extra.get? name = none → merged.extra.get? name = a.extra.get? name
  /-- The free parameters of the first keep their places, and the new ones follow in order. -/
  keys_extra : merged.extra.keys =
    a.extra.keys ++ b.extra.keys.filter fun name => name ∉ a.extra.keys

variable {a b merged : SearchParams}

/-- Merging writes the second over the first. -/
theorem writtenOver_merge (a b : SearchParams) : WrittenOver a b (a.merge b) where
  known_of_some p v h := by rw [known_merge, h, Option.some_or]
  known_of_none p h := by rw [known_merge, h, Option.none_or]
  extra_of_some name j h := by rw [extra_merge, OrderedMap.get?_union, h, Option.some_or]
  extra_of_none name h := by rw [extra_merge, OrderedMap.get?_union, h, Option.none_or]
  keys_extra := OrderedMap.keys_union a.extra b.extra

/-- What is set and where decides what the parameters are. -/
theorem WrittenOver.unique {merged' : SearchParams} (h : WrittenOver a b merged)
    (h' : WrittenOver a b merged') : merged = merged' := by
  apply ext_known
  · intro p
    rcases hb : b.known p with _ | v
    · rw [h.known_of_none p hb, h'.known_of_none p hb]
    · rw [h.known_of_some p v hb, h'.known_of_some p v hb]
  · apply OrderedMap.ext_get?
    · rw [h.keys_extra, h'.keys_extra]
    · intro name
      rcases hb : b.extra.get? name with _ | j
      · rw [h.extra_of_none name hb, h'.extra_of_none name hb]
      · rw [h.extra_of_some name j hb, h'.extra_of_some name j hb]

/-- **The merged parameters are the only ones in which the second set is written over the
first.** -/
theorem writtenOver_iff : WrittenOver a b merged ↔ merged = a.merge b := by
  constructor
  · intro h
    exact h.unique (writtenOver_merge a b)
  · intro h
    rw [h]
    exact writtenOver_merge a b

/-- A free parameter that is written over keeps its place. -/
example :
    let free (l : List (String × Json)) : SearchParams := { extra := .ofList l }
    ((free [("num_typos", .null), ("pinned_hits", .null)]).merge
      (free [("offset", .null), ("num_typos", .bool true)])).extra.entries =
        [("num_typos", .bool true), ("pinned_hits", .null), ("offset", .null)] := rfl

end SearchParams

/-! ## Overrides in layers -/

/-- Overrides are merged into what the other criteria say. -/
theorem SearchCriteria.toParams_overrides (c : SearchCriteria) (s : CollectionSchema)
    (written : SearchParams) :
    { c with overrides := some written }.toParams s = (c.assembled s).merge written := by
  rw [toParams_of_some s rfl, c.assembled_overrides (some written) s]

/-- **Merging parameters is associative and idempotent, and no parameters are its neutral element.**
What is set in the second set counts, and everything else is as in the first, with the free
parameters in the order in which their names came up. So overrides can be written over the
parameters of a search layer by layer, or be merged before. -/
theorem merge_idempotent_monoid (a b c : SearchParams) :
    (a.merge b).merge c = a.merge (b.merge c) ∧
    SearchParams.empty.merge a = a ∧ a.merge SearchParams.empty = a ∧
    a.merge a = a ∧
    (∀ merged, SearchParams.WrittenOver a b merged ↔ merged = a.merge b) ∧
    ∀ (criteria : SearchCriteria) (s : CollectionSchema) (layers : List SearchParams),
      layers.foldl SearchParams.merge ({ criteria with overrides := some a }.toParams s) =
        { criteria with overrides := some (layers.foldl SearchParams.merge a) }.toParams s := by
  refine ⟨SearchParams.merge_assoc a b c, SearchParams.empty_merge a, SearchParams.merge_empty a,
    SearchParams.merge_self a, fun merged => SearchParams.writtenOver_iff, ?_⟩
  intro criteria s layers
  rw [criteria.toParams_overrides s, criteria.toParams_overrides s, SearchParams.foldl_merge]

end CollectionSearch
