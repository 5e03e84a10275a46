import CollectionSearch.Criteria.Assembly
import CollectionSearch.Proofs.Except
import CollectionSearch.Proofs.Schema.Build
import CollectionSearch.Proofs.Text.Split

/-!
# Whether what is sent was judged

Criteria are judged by the names in them, but the search service sees the names in the parameters,
where lists have been joined by commas. The two are the same as long as no name has a comma. A list
of sort keys is judged key by key, so of a key with a comma only the front is judged, though the
service reads several keys. Fields that are searched because nothing was asked are not judged at
all, which matters once such a name has a comma.

* `sentNames`, `sentSortFields` : the names that the service reads in a parameter.
* `CollectionSchema.Fit` : whether the declared ones of some names have a capability.
* `SearchCriteria.SentFit` : whether this is so for all names that are sent.

**Main statements:** `check_eq_ok_iff` says what is judged, `sentSortFields_toParam` which sort
fields are sent, and `sentFit_iff_of_check` exactly when criteria that were accepted send only what
is fit.
-/

namespace CollectionSearch

/-! ## Names in parameters -/

/-- The names in a parameter, which stand between commas. -/
def sentNames (param : Option String) : List String := (param.map (Text.split ',')).getD []

/-- The fields of the sort keys in a parameter. -/
def sentSortFields (param : Option String) : List String :=
  ((sentNames param).map SortSpec.keyField).filter SortSpec.isFieldName

/-- Whether each of some names is undeclared or has a capability. -/
def CollectionSchema.Fit (s : CollectionSchema) (able names : List String) : Prop :=
  ∀ name ∈ names, s.declares name = true → name ∈ able

instance (s : CollectionSchema) (able names : List String) : Decidable (s.Fit able names) := by
  unfold CollectionSchema.Fit
  infer_instance

/-- Whether the declared fields in the parameters of a search allow it. -/
structure SearchCriteria.SentFit (c : SearchCriteria) (s : CollectionSchema) : Prop where
  /-- The fields to sort by can be sorted by. -/
  sort : s.Fit s.sortable (sentSortFields ((c.toParams s).known .sortBy))
  /-- The fields to search can be searched. -/
  query : s.Fit s.searchable (sentNames ((c.toParams s).known .queryBy))
  /-- The fields whose values are counted have facets. -/
  facet : s.Fit s.facetable (sentNames ((c.toParams s).known .facetBy))
  /-- The fields to group by have facets. -/
  group : s.Fit s.facetable (sentNames ((c.toParams s).known .groupBy))

/-- Names pass the check exactly when they are fit. -/
theorem checkNames_eq_ok_iff_fit (s : CollectionSchema) (able : List String)
    (refusal : String → QueryError) (names : List String) :
    SearchCriteria.checkNames s able refusal names = .ok () ↔ s.Fit able names := by
  rw [SearchCriteria.checkNames_eq_ok_iff]
  refine forall₂_congr fun name _ => ?_
  cases s.declares name <;> simp

/-- Criteria are accepted exactly when the names in them are fit. -/
theorem SearchCriteria.check_eq_ok_iff (c : SearchCriteria) (s : CollectionSchema) :
    c.check s = .ok () ↔
      s.Fit s.searchable c.queryFields ∧ s.Fit s.sortable c.sortFields ∧
        s.Fit s.facetable c.facetFields := by
  rw [← checkNames_eq_ok_iff_fit s s.searchable .notSearchable,
    ← checkNames_eq_ok_iff_fit s s.sortable .notSortable,
    ← checkNames_eq_ok_iff_fit s s.facetable .notFacetable, check, then_eq_ok_iff, then_eq_ok_iff]

section fit

variable {s : CollectionSchema} {able : List String}

/-- A part of fit names is fit. -/
theorem CollectionSchema.Fit.subset {l m : List String} (h : s.Fit able m) (hsub : l ⊆ m) :
    s.Fit able l := fun name hname => h name (hsub hname)

/-- Fit names stay fit when they are joined, unless a part of a name with a comma is unfit. -/
theorem fit_split_intercalate_iff {l : List String} (hl : s.Fit able l) :
    s.Fit able (Text.split ',' (",".intercalate l)) ↔
      ∀ name ∈ l, ',' ∈ name.toList → s.Fit able (Text.split ',' name) := by
  by_cases hnil : l = []
  · -- no names at all are sent as the empty text, which is read as one empty name
    subst hnil
    refine iff_of_true ?_ fun name hname => absurd hname List.not_mem_nil
    intro name hname hdeclared
    obtain rfl : name = "" := List.mem_singleton.mp hname
    rw [s.declares_empty] at hdeclared
    cases hdeclared
  · rw [Text.split_intercalate rfl hnil]
    refine ⟨?_, ?_⟩
    · intro h name hname _ part hpart
      exact h part (List.mem_flatMap.mpr ⟨name, hname, hpart⟩)
    · intro h part hpart
      obtain ⟨name, hname, hpart⟩ := List.mem_flatMap.mp hpart
      by_cases hcomma : ',' ∈ name.toList
      · exact h name hname hcomma part hpart
      · rw [Text.split_of_not_mem hcomma, List.mem_singleton] at hpart
        exact hl part (hpart ▸ hname)

/-- Fit names without commas stay fit when they are sent. -/
theorem fit_sentNames_joinNames {l : List String} (hl : s.Fit able l)
    (hcomma : ∀ name ∈ l, ',' ∉ name.toList) :
    s.Fit able (sentNames (joinNames l)) := by
  rw [joinNames]
  by_cases hempty : l.isEmpty = true
  · rw [if_pos hempty]
    exact fun name hname => absurd hname List.not_mem_nil
  · rw [if_neg hempty]
    exact (fit_split_intercalate_iff hl).mpr fun name hname h => absurd h (hcomma name hname)

end fit

/-! ## Sort keys -/

/-- The fields of the keys of a specification, as they are read when it is sent. -/
def SortSpec.sentFields : SortSpec → List String
  | one keys => (one keys).fields
  | many keys => keys.flatMap fun key => (one key).fields

/-- Joined keys have the fields that each of them has. -/
theorem fields_one_intercalate (keys : List String) :
    (SortSpec.one (",".intercalate keys)).fields =
      keys.flatMap fun key => (SortSpec.one key).fields := by
  by_cases hnil : keys = []
  · subst hnil
    rfl
  · rw [SortSpec.fields, SortSpec.keys, Text.split_intercalate rfl hnil, List.map_flatMap,
      List.filter_flatMap]
    rfl

/-- The sort fields that are sent are those of the keys, cut at their commas. -/
theorem sentSortFields_toParam (spec : SortSpec) :
    sentSortFields spec.toParam = spec.sentFields := by
  have htext : (SortSpec.one spec.text).fields = spec.sentFields := by
    cases spec with
    | one keys => rfl
    | many keys => exact fields_one_intercalate keys
  rw [SortSpec.toParam, ← htext]
  by_cases hempty : spec.text.isEmpty = true
  · rw [if_pos hempty, String.isEmpty_iff.mp hempty]
    rfl
  · rw [if_neg hempty]
    rfl

/-- A key without a comma has one field at most, its own. -/
theorem mem_fields_many {keys : List String} {key : String} (hkey : key ∈ keys)
    (hcomma : ',' ∉ key.toList) {name : String} (hname : name ∈ (SortSpec.one key).fields) :
    name ∈ (SortSpec.many keys).fields := by
  rw [SortSpec.fields, SortSpec.keys, Text.split_of_not_mem hcomma] at hname
  obtain ⟨hmap, hfield⟩ := List.mem_filter.mp hname
  obtain rfl := List.mem_singleton.mp hmap
  exact List.mem_filter.mpr ⟨List.mem_map.mpr ⟨key, hkey, rfl⟩, hfield⟩

/-- Fit sort fields are sent fit, unless a listed key with a comma has an unfit one. -/
theorem fit_sentFields_iff {s : CollectionSchema} {spec : SortSpec}
    (h : s.Fit s.sortable spec.fields) :
    s.Fit s.sortable spec.sentFields ↔
      ∀ keys, spec = .many keys → ∀ key ∈ keys, ',' ∈ key.toList →
        s.Fit s.sortable (SortSpec.one key).fields := by
  cases spec with
  | one keys => exact iff_of_true h nofun
  | many keys =>
      refine ⟨?_, ?_⟩
      · rintro hsent _ ⟨⟩ key hkey -
        exact hsent.subset fun name hname => List.mem_flatMap.mpr ⟨key, hkey, hname⟩
      · intro hkeys name hname
        obtain ⟨key, hkey, hname⟩ := List.mem_flatMap.mp hname
        by_cases hcomma : ',' ∈ key.toList
        · exact hkeys keys rfl key hkey hcomma name hname
        · exact h name (mem_fields_many hkey hcomma hname)

/-! ## Criteria -/

/-- Whether criteria name the fields to search, to count and to group by without commas. -/
structure SearchCriteria.CommaFree (c : SearchCriteria) : Prop where
  /-- The fields to search. -/
  query : ∀ q, c.queryBy = some q → ∀ name ∈ q.keys, ',' ∉ name.toList
  /-- The fields whose values are counted. -/
  facet : ∀ r ∈ c.facets, ',' ∉ r.field.toList
  /-- The fields to group by. -/
  group : ∀ names, c.groupBy = some names → ∀ name ∈ names, ',' ∉ name.toList

section sent

variable {s : CollectionSchema} {c : SearchCriteria}

/-- The sort fields of accepted criteria are sent fit, unless a listed key with a comma has an
unfit one. -/
theorem fit_sort_iff (hfit : s.Fit s.sortable c.sortFields) :
    s.Fit s.sortable (sentSortFields (c.sort.bind SortSpec.toParam)) ↔
      ∀ keys, c.sort = some (.many keys) → ∀ key ∈ keys, ',' ∈ key.toList →
        s.Fit s.sortable (SortSpec.one key).fields := by
  rcases hsort : c.sort with _ | spec
  · exact iff_of_true (fun name hname => absurd hname List.not_mem_nil) nofun
  · have hspec : s.Fit s.sortable spec.fields := by
      rw [SearchCriteria.sortFields, hsort] at hfit
      exact hfit
    rw [Option.bind_some, sentSortFields_toParam, fit_sentFields_iff hspec]
    simp only [Option.some.injEq]

/-- The searched fields of accepted criteria are sent fit, unless none were asked for and a
searchable name with a comma has an unfit part. -/
theorem fit_query_iff (hc : c.CommaFree) (hfit : s.Fit s.searchable c.queryFields) :
    s.Fit s.searchable (sentNames (some (c.queryByParam s))) ↔
      (c.queryBy = none → ∀ name ∈ s.searchable, ',' ∈ name.toList →
        s.Fit s.searchable (Text.split ',' name)) := by
  rcases hquery : c.queryBy with _ | q
  · have hall : s.Fit s.searchable s.searchable := fun name hname _ => hname
    have hparam : c.queryByParam s = ",".intercalate s.searchable := by
      rw [SearchCriteria.queryByParam, hquery]
    rw [hparam]
    exact (fit_split_intercalate_iff hall).trans ⟨fun h _ => h, fun h => h rfl⟩
  · have hkeys : s.Fit s.searchable q.keys := by
      rw [SearchCriteria.queryFields, hquery] at hfit
      exact hfit
    have hparam : c.queryByParam s = ",".intercalate q.keys := by
      rw [SearchCriteria.queryByParam, hquery]
      rfl
    rw [hparam]
    refine iff_of_true ((fit_split_intercalate_iff hkeys).mpr ?_) nofun
    exact fun name hname hcomma => absurd hcomma (hc.query q hquery name hname)

/-- The counted fields of accepted criteria are sent fit. -/
theorem fit_facet (hc : c.CommaFree) (hfit : s.Fit s.facetable c.facetFields) :
    s.Fit s.facetable (sentNames c.facetByParam) := by
  refine fit_sentNames_joinNames (hfit.subset ?_) ?_
  · exact fun name hname => List.mem_append_left _ (List.mem_filter.mp hname).1
  · intro name hname
    obtain ⟨r, hr, rfl⟩ := List.mem_map.mp (List.mem_filter.mp hname).1
    exact hc.facet r hr

/-- The fields to group by of accepted criteria are sent fit. -/
theorem fit_group (hc : c.CommaFree) (hfit : s.Fit s.facetable c.facetFields) :
    s.Fit s.facetable (sentNames c.groupByParam) := by
  rcases hgroup : c.groupBy with _ | names
  · rw [SearchCriteria.groupByParam, hgroup]
    exact fun name hname => absurd hname List.not_mem_nil
  · rw [SearchCriteria.groupByParam, hgroup]
    refine fit_sentNames_joinNames (hfit.subset ?_) (hc.group names hgroup)
    rw [SearchCriteria.facetFields, hgroup]
    exact List.subset_append_right _ _

/-- **Accepted criteria without overrides send only what is fit, exactly when** each listed sort key
with a comma has fit fields only, and each searchable name with a comma has fit parts only if no
fields to search were asked for. -/
theorem sentFit_iff_of_check (hoverrides : c.overrides = none) (hcomma : c.CommaFree)
    (hcheck : c.check s = .ok ()) :
    c.SentFit s ↔
      (∀ keys, c.sort = some (.many keys) → ∀ key ∈ keys, ',' ∈ key.toList →
        s.Fit s.sortable (SortSpec.one key).fields) ∧
      (c.queryBy = none → ∀ name ∈ s.searchable, ',' ∈ name.toList →
        s.Fit s.searchable (Text.split ',' name)) := by
  obtain ⟨hquery, hsort, hfacet⟩ := (c.check_eq_ok_iff s).mp hcheck
  have hparams : c.toParams s = c.assembled s := SearchCriteria.toParams_of_none s hoverrides
  have hknown : (c.toParams s).known = c.knownParams s := by
    rw [hparams]
    rfl
  rw [← fit_sort_iff hsort, ← fit_query_iff hcomma hquery]
  refine ⟨?_, ?_⟩
  · intro h
    have hsent := h.sort
    have hsearched := h.query
    rw [hknown] at hsent hsearched
    exact ⟨hsent, hsearched⟩
  · rintro ⟨hsent, hsearched⟩
    constructor <;> rw [hknown]
    · exact hsent
    · exact hsearched
    · exact fit_facet hcomma hfacet
    · exact fit_group hcomma hfacet

end sent

/-- A collection with two fields to sort by and one that has only text. -/
def CollectionDraft.sample : CollectionDraft :=
  CollectionDraft.mk "products" [] none none
    |>.sortFloat "price" |>.sortInt64 "stock" |>.string "name"

/-- The schema of the sample. -/
def CollectionSchema.sample : CollectionSchema := CollectionDraft.sample.schema (by decide)

/-- A listed key with a comma does no harm when both of its fields can be sorted by, nor does a key
that is appended to it. -/
theorem sentFit_iff_of_check_sample :
    let c : SearchCriteria :=
      { sort := some ((SortSpec.many ["price:desc,stock:asc"]).andThen "price" .asc) }
    CollectionDraft.sample.build = .ok .sample ∧ c.check .sample = .ok () ∧ c.SentFit .sample := by
  intro c
  have hbuild : CollectionDraft.sample.build = .ok .sample := by rfl
  have hcheck : c.check .sample = .ok () := by rfl
  have hcomma : c.CommaFree := ⟨nofun, nofun, nofun⟩
  refine ⟨hbuild, hcheck, (sentFit_iff_of_check rfl hcomma hcheck).mpr ⟨?_, ?_⟩⟩
  · rintro _ ⟨⟩
    decide
  · intro _
    decide

/-- A listed key with a comma is accepted though it sends a field that cannot be sorted by. The same
keys in one text are refused. -/
theorem not_sentFit_of_check :
    let c : SearchCriteria := { sort := some (.many ["price:desc,name:asc"]) }
    let c' : SearchCriteria := { sort := some (.one "price:desc,name:asc") }
    CollectionDraft.sample.build = .ok .sample ∧ c.overrides = none ∧ c.CommaFree ∧
      c.check .sample = .ok () ∧ (c.toParams .sample).known .sortBy = some "price:desc,name:asc" ∧
      ¬ c.SentFit .sample ∧ c'.check .sample = .error (.notSortable "name") := by
  intro c c'
  have hcomma : c.CommaFree := ⟨nofun, nofun, nofun⟩
  refine ⟨by rfl, rfl, hcomma, by rfl, by rfl, fun h => ?_, by rfl⟩
  have hname : "name" ∈ CollectionSchema.sample.sortable := h.sort "name" (by decide) (by decide)
  exact absurd hname (by decide)

end CollectionSearch
