import CollectionSearch.Criteria.Assembly
import CollectionSearch.Proofs.Ordered

/-!
# Parameters as they are sent

A known parameter is found in the JSON form under its name, unless a free parameter has that name
too. What criteria say of a parameter is what is sent for it, unless they override it.

* `SearchCriteria.Overrides` : whether criteria override a known parameter.

**Main statements:** `get?_toJson` says what is sent for a known parameter, and
`get?_toJson_toParams` what is sent for one that is not overridden.
-/

namespace CollectionSearch

/-! ## Members -/

/-- Nothing is found in an object exactly if it has no member of that name. -/
theorem Json.get?_object_eq_none_iff (members : List (String × Json)) (name : String) :
    (object members).get? name = none ↔ name ∉ members.map Prod.fst := by
  rw [get?_object, Option.map_eq_none_iff, find?_key_eq_none_iff]

/-- The member of a known parameter has its name. -/
theorem fst_of_member? {known : KnownParams} {p : SearchParam} {m : String × Json}
    (h : known.member? p = some m) : m.1 = p.name := by
  obtain ⟨v, -, rfl⟩ := Option.map_eq_some_iff.mp h
  rfl

/-- What is found under the name of a known parameter is its own member. -/
theorem find?_filterMap_member? (known : KnownParams) (p : SearchParam) :
    (l : List SearchParam) →
      ((l.filterMap known.member?).find? fun m => m.1 = p.name) =
        if p ∈ l then known.member? p else none
  | [] => rfl
  | first :: rest => by
      have ih := find?_filterMap_member? known p rest
      by_cases hfirst : first = p
      · subst hfirst
        rw [if_pos List.mem_cons_self]
        rcases hm : known.member? first with _ | m
        · rw [List.filterMap_cons_none hm, ih, hm, ite_self]
        · rw [List.filterMap_cons_some hm,
            List.find?_cons_of_pos (by simpa using fst_of_member? hm)]
      · simp only [List.mem_cons, Ne.symm hfirst, false_or]
        rcases hm : known.member? first with _ | m
        · rw [List.filterMap_cons_none hm, ih]
        · have hne : m.1 ≠ p.name := fun h =>
            hfirst (SearchParam.name_injective ((fst_of_member? hm).symm.trans h))
          rw [List.filterMap_cons_some hm, List.find?_cons_of_neg (by simpa using hne), ih]

/-! ## Known parameters -/

/-- A known parameter that is set is a member of its name. -/
theorem KnownParams.get?_members (known : KnownParams) (p : SearchParam) :
    (Json.object known.members).get? p.name = (known p).map p.kind.toJson := by
  rw [Json.get?_object, members, find?_filterMap_member?, if_pos p.mem_all, member?, Option.map_map]
  rfl

/-- Of a known and a free parameter of one name the free one is sent. -/
theorem SearchParams.get?_toJson_eq_or (params : SearchParams) (name : String) :
    params.toJson.get? name =
      (params.extra.get? name).or ((Json.object params.known.members).get? name) :=
  find?_foldl_setEntry name params.extra.entries params.extra.distinct params.known.members

/-- **A known parameter is sent under its name**, and not at all if it is not set, unless a free
parameter has that name. -/
theorem get?_toJson {params : SearchParams} {p : SearchParam} (h : p.name ∉ params.extra.keys) :
    params.toJson.get? p.name = (params.known p).map p.kind.toJson := by
  have hfree : params.extra.get? p.name = none := params.extra.get?_eq_none_iff.mpr h
  rw [params.get?_toJson_eq_or, hfree, Option.none_or, KnownParams.get?_members]

/-! ## Overrides -/

namespace SearchCriteria

/-- Whether criteria override a known parameter, by its own value or by a free one of that name. -/
def Overrides (c : SearchCriteria) (p : SearchParam) : Prop :=
  ∃ o, c.overrides = some o ∧ ((o.known p).isSome ∨ p.name ∈ o.extra.keys)

variable {c : SearchCriteria} {p : SearchParam} (s : CollectionSchema)

/-- Without overrides no parameter is overridden. -/
theorem not_overrides_of_none (h : c.overrides = none) (p : SearchParam) : ¬ c.Overrides p := by
  rintro ⟨o, ho, -⟩
  rw [h] at ho
  cases ho

/-- A parameter that is not overridden is what the criteria and the schema say. -/
theorem known_toParams (h : ¬ c.Overrides p) : (c.toParams s).known p = c.knownParams s p := by
  rcases ho : c.overrides with _ | o
  · rw [toParams_of_none s ho]
    rfl
  · have hnone : o.known p = none := by
      rw [← Option.not_isSome_iff_eq_none]
      exact fun hsome => h ⟨o, ho, .inl hsome⟩
    rw [toParams_of_some s ho, SearchParams.known_merge, hnone, Option.none_or]
    rfl

/-- No free parameter has the name of one that is not overridden. -/
theorem not_mem_extra_toParams (h : ¬ c.Overrides p) : p.name ∉ (c.toParams s).extra.keys := by
  rcases ho : c.overrides with _ | o
  · rw [toParams_of_none s ho]
    exact List.not_mem_nil
  · rw [toParams_of_some s ho, SearchParams.extra_merge, extra_assembled,
      OrderedMap.mem_keys_union]
    rintro (hmem | hmem)
    · exact absurd hmem List.not_mem_nil
    · exact h ⟨o, ho, .inr hmem⟩

/-- **A parameter that is not overridden is sent as the criteria and the schema say.** -/
theorem get?_toJson_toParams (h : ¬ c.Overrides p) :
    (c.toParams s).toJson.get? p.name = (c.knownParams s p).map p.kind.toJson := by
  rw [get?_toJson (not_mem_extra_toParams s h), known_toParams s h]

/-- Without overrides every parameter is. -/
theorem get?_toJson_toParams_of_none (h : c.overrides = none) (p : SearchParam) :
    (c.toParams s).toJson.get? p.name = (c.knownParams s p).map p.kind.toJson :=
  get?_toJson_toParams s (not_overrides_of_none h p)

end SearchCriteria

end CollectionSearch
