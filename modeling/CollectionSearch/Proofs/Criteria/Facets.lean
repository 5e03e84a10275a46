import CollectionSearch.Proofs.Filter.Ambiguity
import CollectionSearch.Proofs.Params.Wire

/-!
# Facet parameters

Requests whose field has no name are left out of the fields whose values are counted. Their queries
are not left out: the query that is sent is the first one of all requests.

* `FacetRequest.IsListed` : whether the field of a request has a name.
* `SearchCriteria.listedQueries` : the queries of the requests that are not left out.
* `SearchCriteria.FacetsCohere` : whether the query that is sent and the warnings are about the
  requests that are not left out.

**Main statements:** `facetsCohere_iff` says what is sent about facets, and exactly when it is
coherent. `not_facetsCohere_brand` shows a search for which it is not.
-/

namespace CollectionSearch

/-! ## Lists -/

/-- Leaving elements out of a list does not change what is made of it exactly if nothing is made of
them. -/
theorem filterMap_filter_eq_iff {α β : Type} (f : α → Option β) (p : α → Bool) :
    (l : List α) → ((l.filter p).filterMap f = l.filterMap f ↔ ∀ a ∈ l, p a = false → f a = none)
  | [] => by simp
  | a :: rest => by
      have ih := filterMap_filter_eq_iff f p rest
      rw [List.forall_mem_cons]
      rcases hp : p a with _ | _
      · rw [List.filter_cons_of_neg (by simp [hp])]
        rcases hf : f a with _ | b
        · simp [hf, ih]
        · -- one element is missing, and leaving out makes no list longer
          have hlength : ((rest.filter p).filterMap f).length ≤ (rest.filterMap f).length :=
            (List.filter_sublist.filterMap f).length_le
          have hne : (rest.filter p).filterMap f ≠ b :: rest.filterMap f := fun h => by
            rw [h, List.length_cons] at hlength
            exact Nat.not_succ_le_self _ hlength
          simp [hf, hne]
      · rw [List.filter_cons_of_pos hp]
        rcases hf : f a with _ | b <;> simp [hf, ih]

/-- Lists with the same head and the same tail are the same. -/
theorem eq_iff_head?_tail {α : Type} {l l' : List α} :
    l = l' ↔ l.head? = l'.head? ∧ l.tail = l'.tail := by
  cases l <;> cases l' <;> simp

/-! ## Warnings -/

/-- Whether a facet query is reported as left out. -/
def Signal.isIgnoredFacetQuery : Signal → Bool
  | event (.ignoredFacetQuery _ _) => true
  | _ => false

/-- The signals of a filter are not about facets. -/
theorem filter_compileSignalsFor (f : Filter) (s : CollectionSchema) :
    (f.compileSignalsFor s).filter Signal.isIgnoredFacetQuery = [] := by
  rw [List.filter_eq_nil_iff, Filter.compileSignalsFor, Filter.compileSignals]
  intro signal hsignal
  rw [List.mem_append, List.mem_append] at hsignal
  rcases hsignal with h | h | h
  case inl =>
    obtain ⟨field, -, rfl⟩ := List.mem_map.mp h
    exact Bool.false_ne_true
  case inr.inl =>
    obtain ⟨event, hevent, rfl⟩ := List.mem_map.mp h
    obtain ⟨e, -, hscalar⟩ := List.mem_flatMap.mp hevent
    obtain ⟨v, -, hwarning⟩ := List.mem_filterMap.mp hscalar
    obtain ⟨value, rfl⟩ := FilterScalar.eq_unescapedValue hwarning
    exact Bool.false_ne_true
  case inr.inr =>
    simp only [List.mem_cons, List.not_mem_nil, or_false] at h
    rcases h with rfl | rfl <;> exact Bool.false_ne_true

/-! ## Requests -/

/-- Whether a request is not left out: its field has a name. -/
def FacetRequest.IsListed (r : FacetRequest) : Prop := r.field ≠ ""

instance : DecidablePred FacetRequest.IsListed := fun r =>
  inferInstanceAs (Decidable (r.field ≠ ""))

namespace SearchCriteria

/-- The requests that are not left out. -/
def listedFacets (c : SearchCriteria) : List FacetRequest :=
  c.facets.filter fun r => decide r.IsListed

/-- Their queries. -/
def listedQueries (c : SearchCriteria) : List String :=
  c.listedFacets.filterMap FacetRequest.facetQuery

section params

variable (c : SearchCriteria) (s : CollectionSchema)

/-- The fields that are sent are those of the listed requests, if there are any. -/
theorem facetByParam_eq :
    c.facetByParam =
      if c.listedFacets = [] then none
      else some (",".intercalate (c.listedFacets.map FacetRequest.field)) := by
  have hfields : (c.facets.map FacetRequest.field).filter (fun f => !f.isEmpty) =
      c.listedFacets.map FacetRequest.field := by
    rw [List.filter_map, listedFacets]
    refine congrArg (List.map FacetRequest.field) (List.filter_congr fun r _ => ?_)
    rw [Bool.eq_iff_iff, decide_eq_true_eq, Function.comp_apply, Bool.not_eq_true',
      Bool.eq_false_iff, Ne, String.isEmpty_iff]
    rfl
  rw [facetByParam, hfields, joinNames]
  simp

/-- What is sent only along with the fields. -/
theorem bind_facetByParam {α : Type} (value : Option α) :
    (c.facetByParam.bind fun _ => value) = if c.listedFacets = [] then none else value := by
  rw [facetByParam_eq]
  split <;> rfl

/-- The warnings about facet queries are all about those after the first one. -/
theorem filter_assemblySignals :
    (c.assemblySignals s).filter Signal.isIgnoredFacetQuery =
      (if c.listedFacets = [] then [] else c.facetQueries.tail).map
        fun query => .event (.ignoredFacetQuery s.name query) := by
  have hqueries : c.ignoredFacetQueries =
      if c.listedFacets = [] then [] else c.facetQueries.tail := by
    rw [ignoredFacetQueries, facetByParam_eq]
    split <;> rfl
  have hignored : (c.ignoredFacetQueries.map fun query =>
      Signal.event (.ignoredFacetQuery s.name query)).filter Signal.isIgnoredFacetQuery =
        c.ignoredFacetQueries.map fun query => Signal.event (.ignoredFacetQuery s.name query) := by
    rw [List.filter_eq_self]
    exact List.forall_mem_map.mpr fun _ _ => rfl
  rw [assemblySignals, List.filter_append, hignored, hqueries]
  refine List.append_right_eq_self.mpr ?_
  split
  · exact filter_compileSignalsFor _ s
  · rfl

/-- All queries are those of listed requests exactly if no request that is left out has one. -/
theorem listedQueries_eq_facetQueries_iff :
    c.listedQueries = c.facetQueries ↔ ∀ r ∈ c.facets, ¬ r.IsListed → r.facetQuery = none := by
  rw [listedQueries, listedFacets, facetQueries, filterMap_filter_eq_iff]
  simp only [decide_eq_false_iff_not]

/-- Whether the query that is sent is the first one of the requests that are not left out, and the
warnings are about their other queries, in order. -/
@[mk_iff facetsCohere_def]
structure FacetsCohere : Prop where
  /-- The first query is sent. -/
  sent : (c.toParams s).toJson.get? SearchParam.facetQuery.name =
    c.listedQueries.head?.map Json.string
  /-- The others are reported. -/
  reported : (c.assemblySignals s).filter Signal.isIgnoredFacetQuery =
    c.listedQueries.tail.map fun query => .event (.ignoredFacetQuery s.name query)

variable {c}

section sent

variable (h : c.overrides = none)

include h

/-- A parameter that goes along with the fields is sent if there are fields. -/
theorem get?_toJson_along_facetBy {p : SearchParam} {value : Option p.Value}
    (hp : c.knownParams s p = c.facetByParam.bind fun _ => value) :
    (c.toParams s).toJson.get? p.name =
      if c.listedFacets = [] then none else value.map p.kind.toJson := by
  rw [get?_toJson_toParams_of_none s h p, hp, bind_facetByParam]
  split <;> rfl

/-- The query and the warnings are coherent if there are no fields, or no other queries than those
of listed requests. -/
theorem facetsCohere_iff_listedQueries :
    c.FacetsCohere s ↔ c.listedFacets = [] ∨ c.listedQueries = c.facetQueries := by
  have hquery : (c.toParams s).toJson.get? SearchParam.facetQuery.name =
      if c.listedFacets = [] then none else c.facetQueries.head?.map Json.string :=
    get?_toJson_along_facetBy s h rfl
  by_cases hlisted : c.listedFacets = []
  · have hnil : c.listedQueries = [] := by rw [listedQueries, hlisted, List.filterMap_nil]
    refine iff_of_true ⟨?_, ?_⟩ (.inl hlisted)
    · rw [hquery, if_pos hlisted, hnil, List.head?_nil, Option.map_none]
    · rw [filter_assemblySignals, if_pos hlisted, hnil, List.tail_nil]
  · have hstring : Function.Injective Json.string := fun _ _ heq => Json.string.inj heq
    have hevent : Function.Injective fun query =>
        Signal.event (.ignoredFacetQuery s.name query) := fun _ _ heq =>
      (Event.ignoredFacetQuery.inj (Signal.event.inj heq)).2
    have hcohere : c.FacetsCohere s ↔ c.facetQueries.head? = c.listedQueries.head? ∧
        c.facetQueries.tail = c.listedQueries.tail := by
      rw [facetsCohere_def, hquery, filter_assemblySignals, if_neg hlisted, if_neg hlisted,
        (Option.map_injective hstring).eq_iff, (List.map_injective_iff.mpr hevent).eq_iff]
    rw [hcohere, ← eq_iff_head?_tail, or_iff_right hlisted, eq_comm]

end sent

/-- **The fields whose values are counted are those of the requests with a name, in order, and
nothing is sent about facets without them. The query and the warnings are coherent exactly if no
request that is left out has a query, or all requests are left out.** -/
theorem facetsCohere_iff (h : c.overrides = none) :
    (c.toParams s).toJson.get? SearchParam.facetBy.name =
      (if c.listedFacets = [] then none
        else some (.string (",".intercalate (c.listedFacets.map FacetRequest.field)))) ∧
    (c.toParams s).toJson.get? SearchParam.maxFacetValues.name =
      (if c.listedFacets = [] then none else c.maxFacetValues.map Json.ofUInt32) ∧
    (c.toParams s).toJson.get? SearchParam.facetQuery.name =
      (if c.listedFacets = [] then none else c.facetQueries.head?.map Json.string) ∧
    (c.FacetsCohere s ↔
      c.listedFacets = [] ∨ ∀ r ∈ c.facets, ¬ r.IsListed → r.facetQuery = none) := by
  refine ⟨?fields, get?_toJson_along_facetBy s h rfl, get?_toJson_along_facetBy s h rfl, ?coherent⟩
  case fields =>
    rw [get?_toJson_toParams_of_none s h]
    change c.facetByParam.map Json.string = _
    rw [facetByParam_eq]
    split <;> rfl
  case coherent => rw [facetsCohere_iff_listedQueries s h, listedQueries_eq_facetQueries_iff]

end params

/-- A request without a name does no harm if it has no query, and an empty query is none. -/
theorem facetsCohere_iff_category :
    let c : SearchCriteria :=
      { facets := [.all "brand", .limited "" none, .limited "size" (some ""),
          .limited "category" (some "category:shoe"), .limited "colour" (some "colour:red")],
        maxFacetValues := some 5 }
    let s := CollectionDraft.schema { name := "products" } (by decide)
    c.overrides = none ∧
      (c.toParams s).toJson.get? "facet_by" = some (.string "brand,size,category,colour") ∧
      (c.toParams s).toJson.get? "max_facet_values" = some (.ofUInt32 5) ∧
      (c.toParams s).toJson.get? "facet_query" = some (.string "category:shoe") ∧
      (c.assemblySignals s).filter Signal.isIgnoredFacetQuery =
        [.event (.ignoredFacetQuery "products" "colour:red")] := by
  intro c s
  have hnone : c.overrides = none := rfl
  obtain ⟨hfields, hvalues, -, hcohere⟩ := facetsCohere_iff s hnone
  have hall : ∀ r ∈ c.facets, ¬ r.IsListed → r.facetQuery = none := by decide
  obtain ⟨hsent, hreported⟩ := hcohere.mpr (.inr hall)
  exact ⟨hnone, hfields, hvalues, hsent, hreported⟩

/-- The query of a request without a name is sent in place of the query of the field whose values
are counted, which is reported as left out. -/
theorem not_facetsCohere_brand :
    let c : SearchCriteria :=
      { facets := [.limited "" (some "brand:acme"), .limited "category" (some "category:shoe")] }
    let s := CollectionDraft.schema { name := "products" } (by decide)
    c.overrides = none ∧ c.listedQueries = ["category:shoe"] ∧
      (c.toParams s).toJson.get? "facet_by" = some (.string "category") ∧
      (c.toParams s).toJson.get? "facet_query" = some (.string "brand:acme") ∧
      (c.assemblySignals s).filter Signal.isIgnoredFacetQuery =
        [.event (.ignoredFacetQuery "products" "category:shoe")] ∧
      ¬ c.FacetsCohere s := by
  intro c s
  have hquery : (c.toParams s).toJson.get? "facet_query" = some (.string "brand:acme") := rfl
  have hlisted : c.listedQueries = ["category:shoe"] := by decide
  refine ⟨rfl, hlisted, rfl, hquery, rfl, fun hcohere => ?_⟩
  have hsent := hcohere.sent
  rw [hlisted] at hsent
  have heq : some (Json.string "brand:acme") = some (Json.string "category:shoe") :=
    hquery.symm.trans hsent
  simp at heq

end SearchCriteria

end CollectionSearch
