import CollectionSearch.Proofs.Params.JsonForm

/-!
# Overrides as they are sent

Overrides are read from an object, merged parameter by parameter, and written out again with the
rest. On the wire this comes to writing the members of the object over what would be sent without
them.

* `effectiveMembers` : the members of an object that count. A known parameter that is `null` does
  not.

**Main statements:** `SearchParams.get?_toJson_merge` says what is found in merged parameters, and
`toJson_toParams_overrides` what is sent with overrides.
-/

namespace CollectionSearch

/-- The members that have an effect on what is sent: all but the known parameters that are
`null`. -/
def effectiveMembers (members : List (String × Json)) : List (String × Json) :=
  members.filter fun m => ¬ (SearchParam.IsName m.1 ∧ m.2.isNull)

/-- The members that have an effect set a known parameter or are free. -/
theorem perm_effectiveMembers (members : List (String × Json)) :
    (setMembers members ++ freeMembers members).Perm (effectiveMembers members) := by
  have hset : (effectiveMembers members).filter (fun m => SearchParam.IsName m.1) =
      setMembers members := by
    rw [effectiveMembers, setMembers, List.filter_filter]
    refine List.filter_congr fun m _ => ?_
    by_cases hname : SearchParam.IsName m.1 <;> simp [hname]
  have hfree : (effectiveMembers members).filter (fun m => !decide (SearchParam.IsName m.1)) =
      freeMembers members := by
    rw [effectiveMembers, freeMembers, List.filter_filter]
    refine List.filter_congr fun m _ => ?_
    by_cases hname : SearchParam.IsName m.1 <;> simp [hname]
  rw [← hset, ← hfree]
  exact List.filter_append_perm _ _

/-! ## Merged parameters -/

namespace SearchParams

variable {params : SearchParams}

/-- Under a name that no known parameter has there is none. -/
theorem get?_members_of_not_isName (known : KnownParams) {name : String}
    (h : ¬ SearchParam.IsName name) : (Json.object known.members).get? name = none := by
  rw [Json.get?_object_eq_none_iff]
  exact fun hmem => h (KnownParams.names_members_sublist.subset hmem)

/-- Merging known parameters is writing those that are set in the second over the first. -/
theorem get?_members_merge (a b : SearchParams) (name : String) :
    (Json.object (a.merge b).known.members).get? name =
      ((Json.object b.known.members).get? name).or ((Json.object a.known.members).get? name) := by
  by_cases hname : SearchParam.IsName name
  · obtain ⟨p, -, rfl⟩ := List.mem_map.mp hname
    simp only [KnownParams.get?_members, known_merge]
    cases b.known p <;> rfl
  · simp only [get?_members_of_not_isName _ hname, Option.none_or]

/-- **What is found in merged parameters is found in the second, and else in the first**, if no free
parameter of the first has the name of a known one. -/
theorem get?_toJson_merge {a : SearchParams} (h : a.Plain) (b : SearchParams) (name : String) :
    (a.merge b).toJson.get? name = (b.toJson.get? name).or (a.toJson.get? name) := by
  rw [get?_toJson_eq_or, get?_toJson_eq_or b, get?_toJson_eq_or a, extra_merge,
    OrderedMap.get?_union, get?_members_merge]
  -- the known parameters of the second stand between its free ones and the free ones of the first,
  -- so the two must not share a name
  by_cases hname : SearchParam.IsName name
  · have hfree : a.extra.get? name = none :=
      a.extra.get?_eq_none_iff.mpr fun hmem => h name hmem hname
    rw [hfree, Option.or_none, Option.none_or, Option.or_assoc]
  · simp only [get?_members_of_not_isName _ hname, Option.or_none]

/-- Parameters that were read are found under a name as the members that have an effect are. -/
theorem get?_toJson_of_decode {o : OrderedMap String Json}
    (h : decode (Json.object o.entries) = .ok params) (name : String) :
    params.toJson.get? name = (Json.object (effectiveMembers o.entries)).get? name := by
  have hmembers : params.members.Perm (effectiveMembers o.entries) := by
    rw [(plain_of_decode h).members_eq, entries_extra_of_decode h]
    exact ((perm_members_of_decode h).append_right _).trans (perm_effectiveMembers o.entries)
  exact find?_key_eq_of_perm params.nodup_members hmembers name

section overridden

variable {a written : SearchParams} (ha : a.extra = OrderedMap.empty) {o : OrderedMap String Json}
  (h : decode (Json.object o.entries) = .ok written)

include ha

/-- Without free parameters none has the name of a known one. -/
theorem plain_of_extra_eq_empty : a.Plain := by
  intro name hname
  rw [ha] at hname
  exact absurd hname List.not_mem_nil

include h

/-- Parameters that were read are merged into known ones by sending the free ones after them. -/
theorem members_merge_of_decode :
    (a.merge written).members = (a.merge written).known.members ++ freeMembers o.entries := by
  have hextra : (a.merge written).extra = written.extra := by
    rw [extra_merge, ha, OrderedMap.empty_union]
  have hplain : (a.merge written).Plain := by
    intro name hname
    rw [hextra] at hname
    exact plain_of_decode h name hname
  rw [hplain.members_eq, hextra, entries_extra_of_decode h]

/-- Merged parameters are found among the members that were read, and else as they were. -/
theorem get?_toJson_merge_of_decode (name : String) :
    (a.merge written).toJson.get? name =
      ((Json.object (effectiveMembers o.entries)).get? name).or (a.toJson.get? name) := by
  rw [get?_toJson_merge (plain_of_extra_eq_empty ha), get?_toJson_of_decode h]

/-- Parameters that were read are merged by writing their members over the others. -/
theorem perm_members_merge_of_decode :
    (a.merge written).members.Perm (Json.overlay a.members (effectiveMembers o.entries)) := by
  refine perm_of_find?_key_eq (nodup_members _)
    (nodup_foldl_setEntry (effectiveMembers o.entries) a.nodup_members) fun name => ?_
  calc (Json.object (a.merge written).members).get? name
      = ((Json.object (effectiveMembers o.entries)).get? name).or (a.toJson.get? name) :=
        get?_toJson_merge_of_decode ha h name
    _ = (Json.object (Json.overlay a.members (effectiveMembers o.entries))).get? name :=
        (find?_foldl_setEntry name _ (nodup_keys_filter o.distinct _) a.members).symm

/-- Every member that was read and has an effect is a member of the merged parameters. -/
theorem mem_members_merge_of_decode {m : String × Json} (hm : m ∈ effectiveMembers o.entries) :
    m ∈ (a.merge written).members := by
  have hget : (Json.object (effectiveMembers o.entries)).get? m.1 = some m.2 :=
    (find?_key_eq_some_iff (nodup_keys_filter o.distinct _)).mpr hm
  have hmerged : (a.merge written).toJson.get? m.1 = some m.2 := by
    rw [get?_toJson_merge_of_decode ha h, hget, Option.some_or]
  exact (find?_key_eq_some_iff (nodup_members _)).mp hmerged

end overridden

end SearchParams

/-! ## Criteria -/

/-- Overrides do not change what the other criteria say. -/
theorem SearchCriteria.assembled_overrides (c : SearchCriteria) (written : Option SearchParams)
    (s : CollectionSchema) : { c with overrides := written }.assembled s = c.assembled s := by
  have hknown : { c with overrides := written }.knownParams s = c.knownParams s := by
    funext p
    cases p <;> rfl
  rw [assembled, hknown]
  rfl

/-- **Overrides are written over what is sent without them.** Of an object that is read as
parameters every member is sent as it stands there, unless it is a known parameter that is `null`;
what the object does not name is sent as without overrides, and nothing else is sent. Known
parameters stand in front in the order of their declaration, and the free ones follow in that of the
object. -/
theorem toJson_toParams_overrides (c : SearchCriteria) (s : CollectionSchema)
    (hnone : c.overrides = none) (o : OrderedMap String Json) (written : SearchParams)
    (h : SearchParams.decode (Json.object o.entries) = .ok written) :
    ∃ before front, (c.toParams s).toJson = .object before ∧
      ({ c with overrides := some written }.toParams s).toJson =
        .object (front ++ freeMembers o.entries) ∧
      (front ++ freeMembers o.entries).Perm (Json.overlay before (effectiveMembers o.entries)) ∧
      (∀ m ∈ effectiveMembers o.entries, m ∈ front ++ freeMembers o.entries) ∧
      (front.map Prod.fst).Sublist (SearchParam.all.map SearchParam.name) := by
  have hassembled : c.toParams s = c.assembled s := SearchCriteria.toParams_of_none s hnone
  have hparams : { c with overrides := some written }.toParams s = (c.assembled s).merge written :=
    congrArg (SearchParams.merge · written) (c.assembled_overrides (some written) s)
  have hextra : (c.assembled s).extra = OrderedMap.empty := rfl
  have hmembers := SearchParams.members_merge_of_decode hextra h
  rw [hassembled, hparams]
  refine ⟨(c.assembled s).members, ((c.assembled s).merge written).known.members, rfl, ?_, ?_, ?_,
    KnownParams.names_members_sublist⟩
  · rw [SearchParams.toJson, hmembers]
  · rw [← hmembers]
    exact SearchParams.perm_members_merge_of_decode hextra h
  · rw [← hmembers]
    exact fun m hm => SearchParams.mem_members_merge_of_decode hextra h hm

/-- Overrides replace the text and add a free parameter that is `null`; the page is `null` there and
stays. -/
theorem toJson_toParams_overrides_null :
    let c : SearchCriteria := { q := some "shoe", page := some 2 }
    let s := CollectionDraft.schema { name := "products" } (by decide)
    let o : OrderedMap String Json := .ofList
      [("num_typos", .null), ("page", .null), ("q", .string "boot"), ("per_page", .ofUInt32 5)]
    let free : List (String × Json) := [("num_typos", .null)]
    c.overrides = none ∧ ∃ written, SearchParams.decode (Json.object o.entries) = .ok written ∧
      ∃ before front, (c.toParams s).toJson = .object before ∧
        ({ c with overrides := some written }.toParams s).toJson = .object (front ++ free) ∧
        (front ++ free).Perm (Json.overlay before (effectiveMembers o.entries)) ∧
        (∀ m ∈ effectiveMembers o.entries, m ∈ front ++ free) ∧
        (front.map Prod.fst).Sublist (SearchParam.all.map SearchParam.name) := by
  intro c s o free
  obtain ⟨written, hwritten⟩ :
      ∃ written, SearchParams.decode (Json.object o.entries) = .ok written := ⟨_, rfl⟩
  exact ⟨rfl, written, hwritten, toJson_toParams_overrides c s rfl o written hwritten⟩

end CollectionSearch
