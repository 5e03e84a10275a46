import CollectionSearch.Proofs.Criteria.Overrides
import CollectionSearch.Proofs.Filter.JsonForm

/-!
# The JSON form of criteria

Criteria can be given as an object instead of being put together. The members may stand in any
order, and what is not set may be left out or be `null`. What is read from such an object does the
same as the criteria themselves. It is not always equal to them: an empty list of maps in a filter
is read as an empty list of values, which says just as little.

* `FacetRequest.toJson`, `QueryBy.toJson`, `SortSpec.toJson`, `FilterSpec.toJson`,
  `SearchParams.toJson` : the forms of the parts.
* `SearchCriteria.IsForm` : whether the members of an object are a form of criteria.
* `SearchCriteria.Portable` : whether criteria can be given as an object: the numbers in a filter
  are finite, and no free override has the name of a known parameter.
* `SearchCriteria.reread` : the criteria that are read.

**Main statements:** `SearchCriteria.decode_form` says what is read from a form, and
`decode_form_interchangeable` that it does the same.
-/

namespace CollectionSearch

/-! ## Parts -/

/-- A facet request is read back. -/
theorem FacetRequest.decode_toJson (r : FacetRequest) : decode r.toJson = .ok r := by
  unfold decode
  simp [Except.mapError, bind, Except.bind]

/-- A sort specification is read back. -/
theorem SortSpec.decode_toJson (spec : SortSpec) : decode spec.toJson = .ok spec := by
  unfold decode
  simp [Except.mapError, bind, Except.bind]

theorem SortSpec.toJson_ne_null (spec : SortSpec) : spec.toJson ≠ .null := by
  cases spec <;> nofun

/-- Weighted fields are read back. -/
theorem QueryBy.decode_toJson (q : QueryBy) : decode q.toJson = .ok q := by
  have hadd : ∀ (members : List (String × Json)) (acc : QueryBy), addMembers acc members =
      (members.mapM fun m => (weight m.1 m.2).map fun w => (m.1, w)).map fun entries =>
        entries.foldl (fun acc e => acc.insert e.1 e.2) acc :=
    add_eq_map_foldl (fun _ => rfl) fun acc m rest => by
      obtain ⟨name, j⟩ := m
      rw [addMembers]
      cases weight name j <;> rfl
  have hentries : (q.entries.map fun e => (e.1, Json.ofUInt32 e.2)).mapM
      (fun m => (weight m.1 m.2).map fun w => (m.1, w)) = .ok (q.entries.map id) :=
    mapM_map_of_forall fun e _ => by
      rw [weight_ofUInt32]
      rfl
  show addMembers empty (q.entries.map fun e => (e.1, Json.ofUInt32 e.2)) = _
  rw [hadd, hentries, List.map_id]
  exact congrArg Except.ok q.ofList_entries

/-! ## Filters -/

namespace FilterSpec

/-- The JSON form of a filter. -/
def toJson : FilterSpec → Json
  | raw expression => .string expression
  | structured f => f.toJson

/-- Whether all numbers of a structured filter are finite. -/
def IsFinite : FilterSpec → Prop
  | raw _ => True
  | structured f => f.IsFinite

/-- The filter that is read from the form. -/
def reread : FilterSpec → FilterSpec
  | raw expression => raw expression
  | structured f => structured f.reread

variable {spec : FilterSpec}

theorem toJson_ne_null (spec : FilterSpec) : spec.toJson ≠ .null := by
  cases spec <;> nofun

/-- A filter is read from its form, up to empty lists of maps. -/
theorem decode_toJson (h : spec.IsFinite) : decode spec.toJson = .ok spec.reread := by
  cases spec with
  | raw expression => rfl
  | structured f =>
      have hread : Filter.decode f.toJson = .ok f.reread := by
        show (Filter.ofJson f.toJson).mapError _ = _
        rw [Filter.IsFinite.ofJson_toJson h]
        rfl
      show (Filter.decode f.toJson).map structured = _
      rw [hread]
      rfl

end FilterSpec

/-! ## Criteria -/

namespace SearchCriteria

/-- The names of all parts, in the order in which they are read. -/
def partNames : List String :=
  ["q", "queryBy", "sort", "page", "per_page", "facets", "maxFacetValues", "filter", "include",
    "exclude", "groupBy", "groupLimit", "prefix", "_searchParams"]

/-- The parts that may be missing under their names; those that are missing are `null`. -/
def parts (c : SearchCriteria) : List (String × Json) :=
  [("q", .ofOption .string c.q), ("queryBy", .ofOption QueryBy.toJson c.queryBy),
    ("sort", .ofOption SortSpec.toJson c.sort), ("page", .ofOption .ofUInt32 c.page),
    ("per_page", .ofOption .ofUInt32 c.perPage),
    ("maxFacetValues", .ofOption .ofUInt32 c.maxFacetValues),
    ("filter", .ofOption FilterSpec.toJson c.filter), ("include", .ofOption .ofStrings c.included),
    ("exclude", .ofOption .ofStrings c.excluded), ("groupBy", .ofOption .ofStrings c.groupBy),
    ("groupLimit", .ofOption .ofUInt32 c.groupLimit), ("prefix", .ofOption .bool c.prefixSearch),
    ("_searchParams", .ofOption SearchParams.toJson c.overrides)]

/-- Whether the members of an object are a form of criteria: in any order, with what is not set left
out or `null`. -/
structure IsForm (c : SearchCriteria) (members : List (String × Json)) : Prop where
  /-- No name stands twice. -/
  distinct : (members.map Prod.fst).Nodup
  /-- Each part stands under its name, or is left out if it is missing. -/
  part : ∀ e ∈ c.parts, (Json.object members).get? e.1 = some e.2 ∨
    (Json.object members).get? e.1 = none ∧ e.2 = .null
  /-- So do the facet requests, or they are left out if there are none. -/
  facets : (Json.object members).get? "facets" = some (.array (c.facets.map FacetRequest.toJson)) ∨
    (Json.object members).get? "facets" = none ∧ c.facets = []

/-- Whether criteria can be given as an object. -/
structure Portable (c : SearchCriteria) : Prop where
  /-- The numbers in a structured filter are finite. -/
  filter : ∀ spec ∈ c.filter, spec.IsFinite
  /-- No free override has the name of a known parameter. -/
  overrides : ∀ params ∈ c.overrides, params.Plain

/-- The criteria that are read from a form. -/
def reread (c : SearchCriteria) : SearchCriteria := { c with filter := c.filter.map .reread }

/-- The members for the parts that are there. -/
def members (c : SearchCriteria) : List (String × Json) :=
  (("facets", .array (c.facets.map FacetRequest.toJson)) :: c.parts).filter fun m => !m.2.isNull

/-- Of members in any order under distinct names, less those that are `null`, every one is found,
unless it is `null`. -/
theorem found_of_perm {full members : List (String × Json)} (hfull : (full.map Prod.fst).Nodup)
    (hperm : members.Perm (full.filter fun m => !m.2.isNull)) {e : String × Json} (he : e ∈ full) :
    (Json.object members).get? e.1 = some e.2 ∨
      (Json.object members).get? e.1 = none ∧ e.2 = .null := by
  have hdistinct : (members.map Prod.fst).Nodup :=
    (hperm.map Prod.fst).nodup_iff.mpr (nodup_keys_filter hfull _)
  have hfound : ∀ v, (Json.object members).get? e.1 = some v ↔ (e.1, v) ∈ full ∧ !v.isNull := by
    intro v
    rw [Json.get?_object, find?_key_eq_some_iff hdistinct, hperm.mem_iff, List.mem_filter]
  -- a member that is `null` is left out, and no other has its name
  by_cases hnull : e.2 = .null
  · refine .inr ⟨Option.eq_none_iff_forall_ne_some.mpr fun v hv => ?_, hnull⟩
    obtain ⟨hmem, hv⟩ := (hfound v).mp hv
    have hsame : (e.1, v) = e := List.inj_on_of_nodup_map hfull hmem he rfl
    rw [← hsame] at hnull
    cases hnull
    cases hv
  · refine .inl ((hfound e.2).mpr ⟨he, ?_⟩)
    rcases hvalue : e.2 with _ | _ <;> first | rfl | exact absurd hvalue hnull

/-- The members in any order are a form. -/
theorem isForm_of_perm {c : SearchCriteria} {members : List (String × Json)}
    (h : members.Perm c.members) : c.IsForm members := by
  have hnames :
      ((("facets", .array (c.facets.map FacetRequest.toJson)) :: c.parts).map Prod.fst).Nodup := by
    show ("facets" :: partNames.erase "facets").Nodup
    decide
  refine ⟨?_, fun e he => found_of_perm hnames h (List.mem_cons_of_mem _ he), ?_⟩
  · exact (h.map Prod.fst).nodup_iff.mpr (nodup_keys_filter hnames _)
  · have hfound := found_of_perm hnames h List.mem_cons_self
    exact .inl (hfound.resolve_right fun hnone => nomatch hnone.2)

variable {c : SearchCriteria} {members : List (String × Json)}

/-- The facet requests of a form are read back. -/
theorem IsForm.decode_facets (h : c.IsForm members) :
    ((Json.object members).get? "facets").elim (.ok []) (decodeList FacetRequest.decode) =
      .ok c.facets := by
  rcases h.facets with hfacets | ⟨hfacets, hnil⟩
  · rw [hfacets]
    exact decodeList_map fun r _ => r.decode_toJson
  · rw [hfacets, hnil]
    rfl

/-- Criteria are read from what is found under the names of their parts. -/
theorem IsForm.reads (h : c.IsForm members) (hc : c.Portable) :
    record.Reads (partNames.map fun name => (name, (Json.object members).get? name)) c.reread := by
  have hparts := h.part
  simp only [parts, List.forall_mem_cons] at hparts
  obtain ⟨hq, hqueryBy, hsort, hpage, hperPage, hmax, hfilter, hincluded, hexcluded, hgroupBy,
    hlimit, hprefix, hoverrides, -⟩ := hparts
  exact ((Record.Reads.nullable hq fun q _ => ⟨decodeString_string q, nofun⟩).map SearchCriteria.mk)
    |>.seq (.nullable hqueryBy fun q _ => ⟨q.decode_toJson, nofun⟩)
    |>.seq (.nullable hsort fun spec _ => ⟨spec.decode_toJson, spec.toJson_ne_null⟩)
    |>.seq (.nullable hpage fun n _ => ⟨decodeUInt32_ofUInt32 n, nofun⟩)
    |>.seq (.nullable hperPage fun n _ => ⟨decodeUInt32_ofUInt32 n, nofun⟩)
    |>.seq (.defaulted h.decode_facets)
    |>.seq (.nullable hmax fun n _ => ⟨decodeUInt32_ofUInt32 n, nofun⟩)
    |>.seq (.nullable_map hfilter fun spec hspec =>
      ⟨FilterSpec.decode_toJson (hc.filter spec hspec), spec.toJson_ne_null⟩)
    |>.seq (.nullable hincluded fun l _ => ⟨decodeList_ofStrings l, nofun⟩)
    |>.seq (.nullable hexcluded fun l _ => ⟨decodeList_ofStrings l, nofun⟩)
    |>.seq (.nullable hgroupBy fun l _ => ⟨decodeList_ofStrings l, nofun⟩)
    |>.seq (.nullable hlimit fun n _ => ⟨decodeUInt32_ofUInt32 n, nofun⟩)
    |>.seq (.nullable hprefix fun b _ => ⟨decodeBool_bool b, nofun⟩)
    |>.seq (.nullable hoverrides fun params hparams =>
      ⟨SearchParams.decode_toJson (hc.overrides params hparams), nofun⟩)

/-- **Criteria are read from their forms**, up to empty lists of maps in a filter. -/
theorem decode_form (h : c.IsForm members) (hc : c.Portable) :
    decode (Json.object members) = .ok c.reread := by
  have hgives : Record.Gives members
      (partNames.map fun name => (name, (Json.object members).get? name)) :=
    ⟨h.distinct, List.forall_mem_map.mpr fun _ _ => rfl⟩
  have hnames : ((partNames.map fun name => (name, (Json.object members).get? name)).map
      Prod.fst).Nodup := by
    rw [List.map_map]
    exact (List.map_id partNames).symm ▸ (by decide : partNames.Nodup)
  exact (h.reads hc).decode_object hnames hgives "SearchCriteria"

/-! ## What criteria do -/

/-- What is read from a form gives the same expression. -/
theorem filterParam_reread (c : SearchCriteria) : c.reread.filterParam = c.filterParam := by
  rcases hfilter : c.filter with _ | ⟨expression⟩ | ⟨f⟩ <;>
    simp [filterParam, reread, hfilter, FilterSpec.reread]

/-- What is read from a form gives the same parameters. -/
theorem toParams_reread (c : SearchCriteria) (s : CollectionSchema) :
    c.reread.toParams s = c.toParams s := by
  have hknown : c.reread.knownParams s = c.knownParams s := by
    -- only the parameter for the filter depends on the part that is read otherwise
    funext p
    cases p with
    | filterBy => exact c.filterParam_reread
    | _ => rfl
  have hassembled : c.reread.assembled s = c.assembled s := by
    rw [assembled, hknown]
    rfl
  rw [toParams, hassembled]
  rfl

/-- What is read from a form gives the same signals. -/
theorem assemblySignals_reread (c : SearchCriteria) (s : CollectionSchema) :
    c.reread.assemblySignals s = c.assemblySignals s := by
  have hfilter : c.reread.filter = c.filter.map .reread := rfl
  have hignored : c.reread.ignoredFacetQueries = c.ignoredFacetQueries := rfl
  rw [assemblySignals, assemblySignals, hignored, hfilter]
  rcases c.filter with _ | ⟨expression⟩ | ⟨f⟩ <;> simp [FilterSpec.reread]

end SearchCriteria

/-- **A form and the criteria that it is a form of are interchangeable.** The members for the parts
that are there are a form in every order. Criteria are read from every form, if the numbers in the
filter are finite and no free override has the name of a known parameter. What is read gives the
same parameters with every schema, passes the same checks and reports the same signals. -/
theorem decode_form_interchangeable (c : SearchCriteria) (hc : c.Portable) :
    (∀ members : List (String × Json), members.Perm c.members → c.IsForm members) ∧
    ∀ members : List (String × Json), c.IsForm members →
      ∃ c', SearchCriteria.decode (Json.object members) = .ok c' ∧
        ∀ s : CollectionSchema, c'.toParams s = c.toParams s ∧ c'.check s = c.check s ∧
          c'.assemblySignals s = c.assemblySignals s := by
  refine ⟨fun members h => SearchCriteria.isForm_of_perm h, ?_⟩
  intro members h
  refine ⟨c.reread, SearchCriteria.decode_form h hc, fun s => ⟨?_, ?_, ?_⟩⟩
  · exact c.toParams_reread s
  · -- nothing that is checked depends on the filter
    rfl
  · exact c.assemblySignals_reread s

/-- Criteria with an empty list of maps in the filter are read from an object in which the page is
`null`, other parts are left out and the rest is shuffled. -/
theorem decode_form_interchangeable_shuffled :
    let half : FiniteBinary binary64 := ⟨false, 4503599627370496, -53, by decide⟩
    let c : SearchCriteria :=
      { q := some "shoe"
        queryBy := some (QueryBy.empty.field "name" 2)
        sort := some (.many ["price:desc"])
        facets := [.limited "brand" (some "b"), .all "size"]
        filter := some (.structured
          (Filter.empty.anyOps "stock" [] |>.eq "weight" (.float (.finite half))))
        overrides := some { extra := OrderedMap.empty.insert "num_typos" .null } }
    let members : List (String × Json) :=
      [("_searchParams", .object [("num_typos", .null)]),
        ("filter", .object [("stock", .array []), ("weight", .decimal half)]),
        ("facets", .array [.object [("field", .string "brand"), ("facet_query", .string "b")],
          .string "size"]),
        ("sort", .array [.string "price:desc"]), ("page", .null),
        ("queryBy", .object [("name", .ofUInt32 2)]), ("q", .string "shoe")]
    c.Portable ∧ ∃ c', SearchCriteria.decode (Json.object members) = .ok c' ∧
      ∀ s : CollectionSchema, c'.toParams s = c.toParams s ∧ c'.check s = c.check s ∧
        c'.assemblySignals s = c.assemblySignals s := by
  intro half c members
  have hportable : c.Portable := by
    refine ⟨?_, ?_⟩
    · rintro _ ⟨⟩
      show Filter.IsFinite _
      decide
    · rintro _ ⟨⟩
      decide
  have hform : c.IsForm members := by
    refine ⟨by decide, ?_, .inl rfl⟩
    simp only [SearchCriteria.parts, List.forall_mem_cons]
    exact ⟨.inl rfl, .inl rfl, .inl rfl, .inl rfl, .inr ⟨rfl, rfl⟩, .inr ⟨rfl, rfl⟩, .inl rfl,
      .inr ⟨rfl, rfl⟩, .inr ⟨rfl, rfl⟩, .inr ⟨rfl, rfl⟩, .inr ⟨rfl, rfl⟩, .inr ⟨rfl, rfl⟩, .inl rfl,
      List.forall_mem_nil _⟩
  exact ⟨hportable, (decode_form_interchangeable c hportable).2 members hform⟩

end CollectionSearch
