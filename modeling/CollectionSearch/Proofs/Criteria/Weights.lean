import CollectionSearch.Proofs.Params.Wire
import CollectionSearch.Proofs.Text.Digits
import CollectionSearch.Proofs.Text.Split

/-!
# Fields and their weights, sent in step

The fields that free text is matched against and their weights are sent as two texts. Cut at their
commas they give the fields with their weights again, one by one, as long as no field has a comma in
its name.

* `QueryBy.InStep` : whether two texts, cut at their commas, are the fields and their weights.

**Main statements:** `inStep_iff` says when the two texts that are sent are in step, and
`get?_queryBy_in_step` what is sent for criteria that name fields, that name none, and that leave
the choice to the schema.
-/

namespace CollectionSearch

/-! ## Cutting joined texts -/

/-- A text is cut at its commas into the texts that it was joined from exactly if none of these has
one. -/
theorem split_intercalate_eq_self_iff {names : List String} (h : names ≠ []) :
    Text.split ',' (",".intercalate names) = names ↔ ∀ name ∈ names, ',' ∉ name.toList := by
  constructor
  · intro heq name hname
    rw [← heq] at hname
    exact Text.not_mem_of_mem_split hname
  · intro hcomma
    exact Text.split_intercalate_of_not_mem rfl h hcomma

/-- A number in decimal has no comma. -/
theorem comma_not_mem_toString (n : Nat) : ',' ∉ (toString n).toList := by
  intro hmem
  have hdigit : ','.isDigit = true := Text.isDigit_of_mem (Text.ofDigits?_toString n) ',' hmem
  exact absurd hdigit (by decide)

namespace QueryBy

/-! ## Fields and weights -/

/-- Whether two texts, cut at their commas, are the fields and the decimals of their weights. -/
structure InStep (q : QueryBy) (fields weights : String) : Prop where
  /-- There are as many weights as fields. -/
  length_eq : (Text.split ',' fields).length = (Text.split ',' weights).length
  /-- Each field stands with its own weight. -/
  zip_eq : (Text.split ',' fields).zip
      ((Text.split ',' weights).map fun digits => Text.ofDigits? 10 digits.toList) =
    q.entries.map fun e => (e.1, some e.2.toNat)

variable {q : QueryBy}

/-- The weights are cut into those of the fields, in order. -/
theorem split_weightsParam (h : q.entries ≠ []) :
    Text.split ',' q.weightsParam = q.entries.map fun e => toString e.2.toNat := by
  unfold weightsParam
  apply Text.split_intercalate_of_not_mem rfl
  · simpa using h
  · intro digits hdigits
    obtain ⟨e, -, rfl⟩ := List.mem_map.mp hdigits
    exact comma_not_mem_toString e.2.toNat

/-- Read as decimals they are the weights. -/
theorem map_ofDigits?_weightsParam (h : q.entries ≠ []) :
    (Text.split ',' q.weightsParam).map (fun digits => Text.ofDigits? 10 digits.toList) =
      q.entries.map fun e => some e.2.toNat := by
  rw [split_weightsParam h, List.map_map]
  apply List.map_congr_left
  intro e _
  exact Text.ofDigits?_toString e.2.toNat

/-- **What is sent for fields and their weights is in step exactly if no field has a comma in its
name.** -/
theorem inStep_iff (h : q.entries ≠ []) :
    q.InStep q.fieldsParam q.weightsParam ↔ ∀ name ∈ q.keys, ',' ∉ name.toList := by
  have hkeys : q.keys ≠ [] := by
    simpa [OrderedMap.keys] using h
  rw [← split_intercalate_eq_self_iff hkeys]
  constructor
  · -- the fields of the pairs are the keys, and as many as were cut out
    intro hstep
    have hfields := congrArg (List.map Prod.fst) hstep.zip_eq
    rw [List.map_fst_zip (by simp [hstep.length_eq]), List.map_map] at hfields
    exact hfields
  · intro hsplit
    have hfields : Text.split ',' q.fieldsParam = q.keys := hsplit
    constructor
    · rw [hfields, split_weightsParam h]
      simp [OrderedMap.keys]
    · rw [hfields, map_ofDigits?_weightsParam h, OrderedMap.keys, List.zip_map']

end QueryBy

/-! ## Criteria -/

/-- **Fields and weights are sent in step.** Without overrides, the fields that criteria name are
sent along with their weights, in step exactly if no field has a comma in its name. For criteria
that name no field the empty text is sent and no weights. For those that leave the choice open no
weights are sent, and the fields that are sent are those of the schema that allow it, in order,
exactly if none of these has a comma in its name, where there are any. -/
theorem get?_queryBy_in_step {c : SearchCriteria} (hc : c.overrides = none) (s : CollectionSchema) :
    (∀ q, c.queryBy = some q → q.entries ≠ [] →
      ∃ fields weights,
        (c.toParams s).toJson.get? "query_by" = some (.string fields) ∧
        (c.toParams s).toJson.get? "query_by_weights" = some (.string weights) ∧
        (q.InStep fields weights ↔ ∀ name ∈ q.keys, ',' ∉ name.toList)) ∧
    (c.queryBy = some QueryBy.empty →
      (c.toParams s).toJson.get? "query_by" = some (.string "") ∧
      (c.toParams s).toJson.get? "query_by_weights" = none) ∧
    (c.queryBy = none →
      (c.toParams s).toJson.get? "query_by_weights" = none ∧
      ∃ fields, (c.toParams s).toJson.get? "query_by" = some (.string fields) ∧
        (s.searchable ≠ [] →
          (Text.split ',' fields = s.searchable ↔ ∀ name ∈ s.searchable, ',' ∉ name.toList))) := by
  have hfields : (c.toParams s).toJson.get? "query_by" = some (.string (c.queryByParam s)) :=
    SearchCriteria.get?_toJson_toParams_of_none s hc .queryBy
  have hweights : (c.toParams s).toJson.get? "query_by_weights" = c.weightsParam.map .string :=
    SearchCriteria.get?_toJson_toParams_of_none s hc .queryByWeights
  rw [hfields, hweights]
  unfold SearchCriteria.queryByParam SearchCriteria.weightsParam
  refine ⟨?_, ?_, ?_⟩
  · intro q hq hne
    have hsome : q.isEmpty = false := by
      simpa [OrderedMap.isEmpty] using hne
    refine ⟨q.fieldsParam, q.weightsParam, ?_, ?_, QueryBy.inStep_iff hne⟩
    · rw [hq]
    · simp [hq, hsome]
  · intro hq
    rw [hq]
    exact ⟨rfl, rfl⟩
  · intro hq
    rw [hq]
    refine ⟨rfl, ",".intercalate s.searchable, rfl, ?_⟩
    intro hne
    exact split_intercalate_eq_self_iff hne

/-- A field that is weighted again keeps its place. Criteria that leave the choice open search
neither the identifier nor the field that is not indexed. -/
theorem get?_queryBy_in_step_products :
    let q := ((QueryBy.empty.field "name" 2).field "brand" 127).field "name" 5
    let weighted : SearchCriteria := { queryBy := some q }
    let s := CollectionDraft.mk "products"
        [("name", { type := .string }), ("sku", { type := .string, index := some false }),
          ("tags", { type := .stringArray })] none none
      |>.schema (by decide)
    weighted.overrides = none ∧ SearchCriteria.empty.overrides = none ∧
      q.entries = [("name", 5), ("brand", 127)] ∧
      (∃ fields weights,
        (weighted.toParams s).toJson.get? "query_by" = some (.string fields) ∧
        (weighted.toParams s).toJson.get? "query_by_weights" = some (.string weights) ∧
        q.InStep fields weights) ∧
      ∃ fields, (SearchCriteria.empty.toParams s).toJson.get? "query_by" = some (.string fields) ∧
        Text.split ',' fields = ["name", "tags"] := by
  intro q weighted s
  obtain ⟨hweighted, -, -⟩ := get?_queryBy_in_step (c := weighted) rfl s
  obtain ⟨-, -, hopen⟩ := get?_queryBy_in_step (c := .empty) rfl s
  refine ⟨rfl, rfl, by decide, ?_, ?_⟩
  · obtain ⟨fields, weights, hfields, hweights, hstep⟩ := hweighted q rfl (by decide)
    exact ⟨fields, weights, hfields, hweights, hstep.mpr (by decide)⟩
  · obtain ⟨-, fields, hfields, hsplit⟩ := hopen rfl
    exact ⟨fields, hfields, (hsplit (by decide)).mpr (by decide)⟩

end CollectionSearch
