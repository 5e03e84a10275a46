import CollectionSearch.Proofs.Params.MultiSearch
import CollectionSearch.Proofs.Repository.Searches
import CollectionSearch.Proofs.Text.Split

/-!
# Parameters that are left out

Some parameters of a search say nothing when their text is empty, and are then left out. For the
fields that results show, leave out or are grouped by, the list of names decides that and not their
text, so that the list of just the empty name is sent as the empty text. A search by vector sends
the fields that results show whenever there is a list.

* `SearchParam.omissible` : the parameters.
* `SearchCriteria.names?` : the list of names that a parameter is made of.
* `SearchCriteria.OmitsEmpty` : whether nothing empty is sent for criteria.
* `Repository.ProjectsAlike` : whether a search by vector sends the fields that results show as a
  search by criteria does.

**Main statements:** `omitsEmpty_projectsAlike_iff` says exactly when nothing empty is sent.
`sends_empty_text` shows a search of either kind that sends an empty text.
-/

namespace CollectionSearch

/-! ## Texts -/

theorem nonEmpty_ne_some_empty (s : String) : nonEmpty s ≠ some "" := by
  unfold nonEmpty
  split
  · simp
  · rintro ⟨⟩
    contradiction

/-- The text of names is empty if there is none, or just the empty one. -/
theorem intercalate_comma_eq_empty_iff (names : List String) :
    ",".intercalate names = "" ↔ names = [] ∨ names = [""] := by
  rcases names with _ | ⟨first, others⟩
  · simp
  · rw [Text.intercalate_cons_eq_empty_iff (by decide)]
    simp

/-- Names are sent as the empty text only if there is one and it is empty. -/
theorem joinNames_eq_some_empty_iff (names : List String) :
    joinNames names = some "" ↔ names = [""] := by
  rcases names with _ | ⟨first, others⟩
  · simp [joinNames]
  · simp [joinNames, intercalate_comma_eq_empty_iff]

theorem bind_joinNames_eq_some_empty_iff (names : Option (List String)) :
    names.bind joinNames = some "" ↔ names = some [""] := by
  cases names <;> simp [joinNames_eq_some_empty_iff]

/-- A text is sent as the empty one only if it is. -/
theorem map_string_eq_some_empty_iff (text : Option String) :
    text.map Json.string = some (.string "") ↔ text = some "" := by
  cases text <;> simp

theorem SortSpec.toParam_ne_some_empty (spec : SortSpec) : spec.toParam ≠ some "" := by
  exact nonEmpty_ne_some_empty spec.text

theorem FacetRequest.facetQuery_ne_some_empty (r : FacetRequest) : r.facetQuery ≠ some "" := by
  cases r with
  | all field => simp [facetQuery]
  | limited field query => cases query <;> simp [facetQuery]

/-! ## Criteria -/

/-- The parameters that say nothing when their text is empty. -/
def SearchParam.omissible : List SearchParam :=
  [sortBy, facetBy, facetQuery, filterBy, includeFields, excludeFields, groupBy]

namespace SearchCriteria

variable (c : SearchCriteria) (s : CollectionSchema)

/-- The names that a parameter is made of, as they are. -/
def names? : SearchParam → Option (List String)
  | .includeFields => c.included
  | .excludeFields => c.excluded
  | .groupBy => c.groupBy
  | _ => none

theorem sort_bind_toParam_ne_some_empty : c.sort.bind SortSpec.toParam ≠ some "" := by
  cases c.sort with
  | none => simp
  | some spec => exact spec.toParam_ne_some_empty

theorem facetByParam_ne_some_empty : c.facetByParam ≠ some "" := by
  rw [facetByParam, ne_eq, joinNames_eq_some_empty_iff]
  intro h
  have hmem : "" ∈ (c.facets.map FacetRequest.field).filter fun f => !f.isEmpty := by
    rw [h]
    exact List.mem_cons_self
  simp at hmem

theorem head?_facetQueries_ne_some_empty : c.facetQueries.head? ≠ some "" := by
  intro h
  obtain ⟨r, -, hr⟩ := List.mem_filterMap.mp (List.mem_of_head? h)
  exact r.facetQuery_ne_some_empty hr

theorem filterParam_ne_some_empty : c.filterParam ≠ some "" := by
  unfold filterParam
  split
  · exact nonEmpty_ne_some_empty _
  · exact nonEmpty_ne_some_empty _
  · simp

/-- Of the parameters that say nothing when they are empty those made of names are empty for the
list of just the empty name, and the others never. -/
theorem knownParams_eq_some_empty_iff {p : SearchParam} (hp : p ∈ SearchParam.omissible) :
    (c.knownParams s p).map p.kind.toJson = some (.string "") ↔ c.names? p = some [""] := by
  -- a parameter that is not made of names
  have never : ∀ text : Option String, text ≠ some "" →
      (text.map Json.string = some (.string "") ↔ (none : Option (List String)) = some [""]) := by
    intro text htext
    simp [htext]
  have ofNames : ∀ names : Option (List String),
      (names.bind joinNames).map Json.string = some (.string "") ↔ names = some [""] := by
    intro names
    rw [map_string_eq_some_empty_iff, bind_joinNames_eq_some_empty_iff]
  simp only [SearchParam.omissible, List.mem_cons, List.not_mem_nil, or_false] at hp
  rcases hp with rfl | rfl | rfl | rfl | rfl | rfl | rfl
  · exact never _ c.sort_bind_toParam_ne_some_empty
  · exact never _ c.facetByParam_ne_some_empty
  · refine never (c.facetByParam.bind fun _ => c.facetQueries.head?) ?_
    cases c.facetByParam with
    | none => simp
    | some fields => exact c.head?_facetQueries_ne_some_empty
  · exact never _ c.filterParam_ne_some_empty
  · exact ofNames c.included
  · exact ofNames c.excluded
  · exact ofNames c.groupBy

/-- What is said of these parameters is a text. -/
theorem exists_string_of_knownParams {p : SearchParam} (hp : p ∈ SearchParam.omissible) {j : Json}
    (h : (c.knownParams s p).map p.kind.toJson = some j) : ∃ t, j = .string t := by
  simp only [SearchParam.omissible, List.mem_cons, List.not_mem_nil, or_false] at hp
  obtain ⟨t, -, rfl⟩ := Option.map_eq_some_iff.mp h
  rcases hp with rfl | rfl | rfl | rfl | rfl | rfl | rfl <;> exact ⟨t, rfl⟩

/-- How many results a group shows is said only with the fields that they are grouped by. -/
theorem exists_groupByParam_of_groupLimit {n : UInt32} (h : c.knownParams s .groupLimit = some n) :
    ∃ t, c.groupByParam = some t := by
  obtain ⟨t, ht, -⟩ := Option.bind_eq_some_iff.mp h
  exact ⟨t, ht⟩

/-- Whether nothing empty is sent for criteria. -/
structure OmitsEmpty : Prop where
  /-- A parameter that says nothing when it is empty is sent as a text that is not. -/
  texts : ∀ p ∈ SearchParam.omissible, ∀ j, (c.toParams s).toJson.get? p.name = some j →
    ∃ t, t ≠ "" ∧ j = .string t
  /-- How many results a group shows is sent only with the fields that they are grouped by. -/
  group : ∀ j, (c.toParams s).toJson.get? SearchParam.groupLimit.name = some j →
    ∃ t, t ≠ "" ∧ (c.toParams s).toJson.get? SearchParam.groupBy.name = some (.string t)

variable {c} {s}

/-- A parameter is sent empty exactly if it is made of just the empty name. -/
theorem get?_toJson_eq_some_empty_iff (h : c.overrides = none) {p : SearchParam}
    (hp : p ∈ SearchParam.omissible) :
    (c.toParams s).toJson.get? p.name = some (.string "") ↔ c.names? p = some [""] := by
  rw [get?_toJson_toParams_of_none s h, c.knownParams_eq_some_empty_iff s hp]

/-- **Nothing empty is sent exactly if no parameter is made of just the empty name.** -/
theorem omitsEmpty_iff (h : c.overrides = none) :
    c.OmitsEmpty s ↔ ∀ p ∈ SearchParam.omissible, c.names? p ≠ some [""] := by
  constructor
  · intro homits p hp hnames
    obtain ⟨t, ht, heq⟩ := homits.texts p hp _ ((get?_toJson_eq_some_empty_iff h hp).mpr hnames)
    exact ht (Json.string.inj heq).symm
  · intro hnames
    have texts : ∀ p ∈ SearchParam.omissible, ∀ j, (c.toParams s).toJson.get? p.name = some j →
        ∃ t, t ≠ "" ∧ j = .string t := by
      intro p hp j hj
      obtain ⟨t, rfl⟩ := c.exists_string_of_knownParams s hp
        ((get?_toJson_toParams_of_none s h p).symm.trans hj)
      refine ⟨t, ?_, rfl⟩
      rintro rfl
      exact hnames p hp ((get?_toJson_eq_some_empty_iff h hp).mp hj)
    refine ⟨texts, fun j hj => ?_⟩
    rw [get?_toJson_toParams_of_none s h] at hj
    obtain ⟨n, hn, -⟩ := Option.map_eq_some_iff.mp hj
    obtain ⟨fields, hfields⟩ := c.exists_groupByParam_of_groupLimit s hn
    have hsent : (c.toParams s).toJson.get? SearchParam.groupBy.name = some (.string fields) := by
      rw [get?_toJson_toParams_of_none s h]
      exact congrArg (Option.map Json.string) hfields
    obtain ⟨t, ht, heq⟩ := texts .groupBy (by decide) _ hsent
    rw [heq] at hsent
    exact ⟨t, ht, hsent⟩

end SearchCriteria

/-! ## Searches by vector -/

namespace Repository

variable {D : Type} (r : Repository D)

/-- **A search by vector that passes its check makes one call**, whatever is answered. -/
theorem calls_vectorSearch {σ : Type} (b : Backend σ) {v : VectorSearch}
    (h : (r.vectorQuery v).check r.schema = .ok ()) (state : σ) :
    (r.vectorSearch v).run.calls b state = [.multiSearch [r.vectorRequest v]] := by
  rw [← Program.calls_silent, r.silent_vectorSearch h]
  rfl

/-- The fields that results show are sent whenever there is a list of them. -/
theorem get?_toJson_vectorRequest (v : VectorSearch) :
    (r.vectorRequest v).toJson.get? SearchParam.includeFields.name =
      v.included.map fun names => .string (",".intercalate names) := by
  rw [MultiSearchRequest.get?_toJson_of_ne _ (by decide)]
  rw [get?_toJson (show _ ∉ (r.vectorRequest v).params.extra.keys from List.not_mem_nil)]
  exact Option.map_map ..

/-- Whether a search by vector sends the fields that results show as a search by criteria does. -/
structure ProjectsAlike (v : VectorSearch) (request : MultiSearchRequest) : Prop where
  /-- What is sent is what is sent for criteria with the same list. -/
  alike : ∀ c : SearchCriteria, c.overrides = none → c.included = v.included →
    request.toJson.get? SearchParam.includeFields.name =
      (c.toParams r.schema).toJson.get? SearchParam.includeFields.name
  /-- An empty list is not sent. -/
  absent : v.included = some [] →
    request.toJson.get? SearchParam.includeFields.name = none
  /-- Any other is sent as a text that is not empty. -/
  present : ∀ names, v.included = some names → names ≠ [] →
    ∃ t, t ≠ "" ∧ request.toJson.get? SearchParam.includeFields.name = some (.string t)

/-- **The fields that results show are sent alike except for the list without names and the list of
just the empty name.** -/
theorem projectsAlike_vectorRequest_iff (v : VectorSearch) :
    r.ProjectsAlike v (r.vectorRequest v) ↔ v.included ≠ some [] ∧ v.included ≠ some [""] := by
  constructor
  · intro h
    constructor
    · intro hempty
      have hsent := h.absent hempty
      rw [get?_toJson_vectorRequest, hempty] at hsent
      cases hsent
    · intro hempty
      obtain ⟨t, ht, hsent⟩ := h.present _ hempty (List.cons_ne_nil _ _)
      rw [get?_toJson_vectorRequest, hempty] at hsent
      exact ht (Json.string.inj (Option.some.inj hsent)).symm
  · rintro ⟨hnil, hempty⟩
    have hjoin : v.included.map (",".intercalate ·) = v.included.bind joinNames := by
      rcases hv : v.included with _ | _ | ⟨first, others⟩
      · rfl
      · exact absurd hv hnil
      · rfl
    refine ⟨fun c hc hsame => ?_, fun habs => absurd habs hnil, fun names hnames hne => ?_⟩
    · rw [get?_toJson_vectorRequest, SearchCriteria.get?_toJson_toParams_of_none _ hc]
      show _ = (c.included.bind joinNames).map Json.string
      rw [hsame, ← hjoin, Option.map_map]
      rfl
    · refine ⟨",".intercalate names, ?_, by rw [get?_toJson_vectorRequest, hnames]; rfl⟩
      rw [ne_eq, intercalate_comma_eq_empty_iff]
      rintro (hnil | rfl)
      · exact hne hnil
      · exact hempty hnames

end Repository

/-! ## Both kinds of searches -/

/-- **What is empty is not sent, except for the list of just the empty name**, and of a search by
vector also the list without names. What says nothing when it is empty is left out for criteria
without overrides unless it is made of just the empty name. A search by vector that passes its check
makes one request, and sends the fields that results show like criteria with the same list unless
the list has no names, or just the empty one. -/
theorem omitsEmpty_projectsAlike_iff (c : SearchCriteria) (s : CollectionSchema) {D σ : Type}
    (r : Repository D) (v : VectorSearch) (b : Backend σ) (state : σ) :
    (c.overrides = none →
      (∀ p ∈ SearchParam.omissible,
        ((c.toParams s).toJson.get? p.name = some (.string "") ↔ c.names? p = some [""])) ∧
      (c.OmitsEmpty s ↔
        c.included ≠ some [""] ∧ c.excluded ≠ some [""] ∧ c.groupBy ≠ some [""])) ∧
    ((r.vectorQuery v).check r.schema = .ok () →
      ∃ request,
        (r.vectorSearch v).run.calls b state = [.multiSearch [request]] ∧
        request.toJson.get? SearchParam.includeFields.name =
          v.included.map (fun names => .string (",".intercalate names)) ∧
        (r.ProjectsAlike v request ↔ v.included ≠ some [] ∧ v.included ≠ some [""])) := by
  constructor
  · intro hc
    refine ⟨fun p hp => SearchCriteria.get?_toJson_eq_some_empty_iff hc hp, ?_⟩
    rw [SearchCriteria.omitsEmpty_iff hc]
    simp [SearchParam.omissible, SearchCriteria.names?]
  · intro hv
    exact ⟨r.vectorRequest v, r.calls_vectorSearch b hv state, r.get?_toJson_vectorRequest v,
      r.projectsAlike_vectorRequest_iff v⟩

/-- Grouping by brand is sent with its limit, and a search by vector sends the names that it is
given like criteria do. -/
theorem omitsEmpty_projectsAlike_brand :
    let c : SearchCriteria := { groupBy := some ["brand"], groupLimit := some 3 }
    let v : VectorSearch := { field := "embedding", vector := [], included := some ["brand", "id"] }
    c.overrides = none ∧ c.OmitsEmpty vectorProducts.schema ∧
      (vectorProducts.vectorQuery v).check vectorProducts.schema = .ok () ∧
      ∃ request,
        (vectorProducts.vectorSearch v).run.calls (fun _ => pure (.error .notFound)) () =
          [.multiSearch [request]] ∧
        request.toJson.get? "include_fields" = some (.string "brand,id") ∧
        vectorProducts.ProjectsAlike v request := by
  intro c v
  obtain ⟨hcriteria, hvector⟩ := omitsEmpty_projectsAlike_iff c vectorProducts.schema
    vectorProducts v (fun _ => pure (.error .notFound)) ()
  obtain ⟨request, hcalls, hsent, halike⟩ := hvector rfl
  exact ⟨rfl, (hcriteria rfl).2.mpr (by decide), rfl, request, hcalls, hsent,
    halike.mpr (by decide)⟩

/-- **An empty text is sent** for grouping by the empty name, along with the limit, and for a search
by vector that is to show no fields. -/
theorem sends_empty_text :
    let c : SearchCriteria := { groupBy := some [""], groupLimit := some 3 }
    let v : VectorSearch := { field := "embedding", vector := [], included := some [] }
    ((c.toParams vectorProducts.schema).toJson.get? "group_by" = some (.string "") ∧
      (c.toParams vectorProducts.schema).toJson.get? "group_limit" = some (.ofUInt32 3) ∧
      ¬ c.OmitsEmpty vectorProducts.schema) ∧
    (vectorProducts.vectorQuery v).check vectorProducts.schema = .ok () ∧
    (vectorProducts.vectorRequest v).toJson.get? "include_fields" = some (.string "") ∧
    ¬ vectorProducts.ProjectsAlike v (vectorProducts.vectorRequest v) := by
  intro c v
  refine ⟨⟨rfl, rfl, fun h => ?_⟩, rfl, rfl, fun h => ?_⟩
  · obtain ⟨t, ht, heq⟩ := h.texts .groupBy (by decide) _ rfl
    exact ht (Json.string.inj heq).symm
  · cases h.absent rfl

end CollectionSearch
