import CollectionSearch.Proofs.Filter.JsonForm
import CollectionSearch.Proofs.Filter.NormalForm

/-!
# Whole numbers in filters

The plain values of an object that is read as a filter are the values of that filter, one by one and
in order, and these are the values of its expression. A signed whole number stays the number that it
is. A larger one has no place among the values of filters and becomes the nearest binary number.

* `Json.leaves` : the plain values inside a value, in order.
* `FilterScalar.Holds` : whether a value of a filter is what is read from a plain value.
* `Filter.scalars`, `Filter.values` : the values of a filter, and the texts of values in its
  expression.
* `Filter.KeepsWholes` : whether whole numbers stay the same, in the filter and in its expression.

**Main statements:** `forall₂_holds_of_ofJson` follows every plain value into the filter, and
`keepsWholes_iff_signed` says that exactly the signed whole numbers stay the same.
-/

namespace CollectionSearch

/-! ## Plain values inside a value -/

namespace Json

mutual

/-- The plain values inside a value, in order. -/
def leaves : Json → List Json
  | null => []
  | bool b => [bool b]
  | whole n => [whole n]
  | decimal x => [decimal x]
  | string s => [string s]
  | array items => leavesItems items
  | object members => leavesMembers members

/-- The plain values inside the items of a list. -/
def leavesItems : List Json → List Json
  | [] => []
  | j :: rest => j.leaves ++ leavesItems rest

/-- The plain values inside the values of members. -/
def leavesMembers : List (String × Json) → List Json
  | [] => []
  | (_, j) :: rest => j.leaves ++ leavesMembers rest

end

theorem leaves_array (items : List Json) : (array items).leaves = items.flatMap leaves := by
  rw [leaves]
  induction items with
  | nil => rfl
  | cons j rest ih => rw [leavesItems, ih, List.flatMap_cons]

theorem leaves_object (members : List (String × Json)) :
    (object members).leaves = members.flatMap fun m => m.2.leaves := by
  rw [leaves]
  induction members with
  | nil => rfl
  | cons m rest ih => rw [leavesMembers, ih, List.flatMap_cons]

/-- The whole number, if the value is one. -/
def whole? : Json → Option Whole
  | whole n => some n
  | _ => none

mutual

/-- The whole numbers inside a value are those among its plain values. -/
theorem wholes_eq_filterMap_leaves : (j : Json) → j.wholes = j.leaves.filterMap whole?
  | null | bool _ | whole _ | decimal _ | string _ => rfl
  | array items => wholesItems_eq_filterMap_leaves items
  | object members => wholesMembers_eq_filterMap_leaves members

theorem wholesItems_eq_filterMap_leaves :
    (items : List Json) → wholesItems items = (leavesItems items).filterMap whole?
  | [] => rfl
  | j :: rest => by
      rw [wholesItems, leavesItems, List.filterMap_append, wholes_eq_filterMap_leaves j,
        wholesItems_eq_filterMap_leaves rest]

theorem wholesMembers_eq_filterMap_leaves :
    (members : List (String × Json)) →
      wholesMembers members = (leavesMembers members).filterMap whole?
  | [] => rfl
  | (_, j) :: rest => by
      rw [wholesMembers, leavesMembers, List.filterMap_append, wholes_eq_filterMap_leaves j,
        wholesMembers_eq_filterMap_leaves rest]

end

/-- A value is signed when the whole numbers among its plain values are. -/
theorem signed_iff_forall_mem_leaves (j : Json) :
    j.Signed ↔ ∀ leaf ∈ j.leaves, ∀ n, leaf = whole n → n.val < 9223372036854775808 := by
  have hwhole : ∀ (leaf : Json) (n : Whole), leaf.whole? = some n ↔ leaf = whole n := by
    intro leaf n
    cases leaf <;> simp [whole?]
  rw [Signed, wholes_eq_filterMap_leaves]
  simp only [List.mem_filterMap, hwhole]
  constructor
  · intro h leaf hleaf n hn
    exact h n ⟨leaf, hleaf, hn⟩
  · rintro h n ⟨leaf, hleaf, hn⟩
    exact h leaf hleaf n hn

end Json

/-! ## Values that are read -/

namespace FilterScalar

/-- Whether a value of a filter is what is read from a plain value. A whole number is a signed word
if there is one, and else the nearest binary number. -/
def Holds : Json → FilterScalar → Prop
  | .string s, text t => t = s
  | .bool b, bool c => c = b
  | .whole n, int m => m.toInt = n.val
  | .whole n, float x => 9223372036854775808 ≤ n.val ∧ x = Binary.ofInt binary64 n.val
  | .decimal x, float y => y = .finite x
  | _, _ => False

/-- What is read as a value is the only plain value inside. -/
theorem holds_of_ofJson {field : String} {j : Json} {v : FilterScalar}
    (h : ofJson field j = .ok v) : j.leaves = [j] ∧ Holds j v := by
  cases j with
  | null => cases h
  | bool b =>
      cases h
      exact ⟨rfl, rfl⟩
  | whole n =>
      refine ⟨rfl, ?_⟩
      rcases hword : n.toInt64? with _ | m
      · have hge : 9223372036854775808 ≤ n.val := by
          rw [Whole.toInt64?] at hword
          split at hword
          · cases hword
          · omega
        simp only [ofJson, ofNumber?, Json.int64?, Json.double?, hword] at h
        cases h
        exact ⟨hge, rfl⟩
      · simp only [ofJson, ofNumber?, Json.int64?, hword] at h
        cases h
        exact congrArg Whole.val (Whole.toInt64?_eq_some_iff.mp hword)
  | decimal x =>
      cases h
      exact ⟨rfl, rfl⟩
  | string s =>
      cases h
      exact ⟨rfl, rfl⟩
  | array items => cases h
  | object members => cases h

theorem forall₂_holds_of_ofJson {field : String} {j : Json} {v : FilterScalar}
    (h : ofJson field j = .ok v) : List.Forall₂ Holds j.leaves [v] := by
  obtain ⟨hleaves, hholds⟩ := holds_of_ofJson h
  rw [hleaves]
  exact .cons hholds .nil

/-- The values of a list are the plain values inside it. -/
theorem forall₂_holds_of_listOfJson {field : String} {items : List Json}
    {values : List FilterScalar} (h : listOfJson field items = .ok values) :
    List.Forall₂ Holds (Json.array items).leaves values := by
  have hread : ∀ j ∈ items, ∀ v, ofJson field j = .ok v → List.Forall₂ Holds j.leaves [v] :=
    fun _ _ _ hv => forall₂_holds_of_ofJson hv
  rw [Json.leaves_array, ← List.flatMap_singleton' values]
  exact List.rel_flatMap (forall₂_of_mapM hread h) fun _ _ hv => hv

end FilterScalar

open FilterScalar (Holds)

/-- The values of an operand are the plain values inside it. -/
theorem Operand.forall₂_holds_of_ofJson {field : String} {j : Json} {o : Operand}
    (h : ofJson field j = .ok o) : List.Forall₂ Holds j.leaves o.scalars := by
  by_cases hlist : ∃ items, j = .array items
  · obtain ⟨items, rfl⟩ := hlist
    obtain ⟨values, hvalues, rfl⟩ := map_eq_ok_iff.mp h
    exact FilterScalar.forall₂_holds_of_listOfJson hvalues
  · rw [ofJson_of_ne_array field (not_exists.mp hlist)] at h
    obtain ⟨v, hv, rfl⟩ := map_eq_ok_iff.mp h
    exact FilterScalar.forall₂_holds_of_ofJson hv

/-- So are those of a map of comparisons. -/
theorem OperatorMap.forall₂_holds_of_ofJson {field : String} {j : Json} (hd : j.Distinct)
    {map : OperatorMap} (h : OperatorMap.ofJson field j = .ok map) :
    List.Forall₂ Holds j.leaves (OperatorMap.scalars map) := by
  cases j with
  | object members =>
      rw [OperatorMap.ofJson_object] at h
      have hread : ∀ m ∈ members, ∀ e, OperatorMap.readMember field m = .ok e →
          e.1.name = m.1 ∧ List.Forall₂ Holds m.2.leaves e.2.scalars := by
        intro m _ e he
        rw [OperatorMap.readMember] at he
        rcases hop : FilterOperator.ofName? m.1 with _ | op <;> simp only [hop] at he
        · cases he
        · obtain ⟨o, ho, rfl⟩ := map_eq_ok_iff.mp he
          exact ⟨FilterOperator.ofName?_eq_some_iff.mp hop, Operand.forall₂_holds_of_ofJson ho⟩
      have hnames : (members.map Prod.fst).Nodup := (Json.distinct_object_iff.mp hd).1
      have hall := forall₂_of_map_ofList FilterOperator.name hnames hread h
      rw [Json.leaves_object]
      exact List.rel_flatMap hall fun _ _ he => he
  | _ => cases h

/-- So are those of a predicate. -/
theorem Predicate.forall₂_holds_of_ofJson {field : String} {j : Json} (hd : j.Distinct)
    {p : Predicate} (h : ofJson field j = .ok p) : List.Forall₂ Holds j.leaves p.scalars := by
  have hplain : j.IsPlain → List.Forall₂ Holds j.leaves p.scalars := by
    intro hj
    rw [ofJson_of_isPlain field hj] at h
    obtain ⟨v, hv, rfl⟩ := map_eq_ok_iff.mp h
    exact FilterScalar.forall₂_holds_of_ofJson hv
  cases j with
  | null =>
      cases h
      exact .nil
  | array items =>
      by_cases hfirst : ∃ members rest, items = .object members :: rest
      · obtain ⟨members, rest, rfl⟩ := hfirst
        obtain ⟨maps, hmaps, rfl⟩ := map_eq_ok_iff.mp h
        have hitem : ∀ j ∈ Json.object members :: rest, ∀ map,
            OperatorMap.ofItem field j = .ok map →
              List.Forall₂ Holds j.leaves (OperatorMap.scalars map) := by
          intro j hj map hmap
          cases j with
          | object members =>
              exact OperatorMap.forall₂_holds_of_ofJson (Json.distinct_array_iff.mp hd _ hj) hmap
          | _ => cases hmap
        rw [Json.leaves_array]
        exact List.rel_flatMap (forall₂_of_mapM hitem hmaps) fun _ _ hmap => hmap
      · rw [ofJson_array field fun members rest hitems => hfirst ⟨members, rest, hitems⟩] at h
        obtain ⟨values, hvalues, rfl⟩ := map_eq_ok_iff.mp h
        exact FilterScalar.forall₂_holds_of_listOfJson hvalues
  | object members =>
      obtain ⟨map, hmap, rfl⟩ := map_eq_ok_iff.mp h
      exact OperatorMap.forall₂_holds_of_ofJson hd hmap
  | _ => exact hplain trivial

namespace Filter

/-- The values of a filter, in order. -/
def scalars (f : Filter) : List FilterScalar := f.entries.flatMap fun e => e.2.scalars

/-- **The values of a filter are the plain values of the object that it was read from**, one by one
and in order. -/
theorem forall₂_holds_of_ofJson {j : Json} (hd : j.Distinct) {f : Filter}
    (h : Filter.ofJson j = .ok f) : List.Forall₂ Holds j.leaves f.scalars := by
  cases j with
  | object members =>
      obtain ⟨hnames, hmembers⟩ := Json.distinct_object_iff.mp hd
      have hread : ∀ m ∈ members, ∀ e, Filter.readMember m = .ok e →
          id e.1 = m.1 ∧ List.Forall₂ Holds m.2.leaves e.2.scalars := by
        intro m hm e he
        obtain ⟨p, hp, rfl⟩ := map_eq_ok_iff.mp he
        exact ⟨rfl, Predicate.forall₂_holds_of_ofJson (hmembers m hm) hp⟩
      rw [Filter.ofJson_eq_map] at h
      rw [Json.leaves_object]
      exact List.rel_flatMap (forall₂_of_map_ofList id hnames hread h) fun _ _ he => he
  | _ => cases h

/-! ## Values that are written -/

/-- The texts of the values in the expression of a filter, in order. -/
def values (f : Filter) : List String :=
  f.normalForm.flatMap fun k => k.condition.comparisons.flatMap fun a => a.operand.values

/-- The expression of a filter has the texts of its values, in order. -/
theorem values_eq_map_render (f : Filter) : f.values = f.scalars.map FilterScalar.render := by
  unfold values scalars normalForm
  induction f.entries with
  | nil => rfl
  | cons e rest ih =>
      rw [List.flatMap_cons, List.map_append, ← ih, ← e.2.values_comparisons]
      rcases hc : e.2.condition? with _ | c
      · have hcomparisons := Predicate.comparisons_of_isDropped (e.2.condition?_eq_none_iff.mp hc)
        simp [hc, hcomparisons]
      · simp [hc, Predicate.comparisons_of_condition? hc]

/-! ## Whole numbers -/

/-- Whether the whole numbers inside an object stay the same in a filter: each of them is that
number in the filter, and its decimal digits are the text in the expression. -/
structure KeepsWholes (f : Filter) (j : Json) : Prop where
  /-- They are the same in the filter. -/
  stored : List.Forall₂
    (fun leaf v => ∀ n, leaf = .whole n → ∃ m : Int64, v = .int m ∧ m.toInt = n.val)
    j.leaves f.scalars
  /-- They are the same in the expression. -/
  written : List.Forall₂ (fun leaf text => ∀ n, leaf = .whole n → text = toString n.val)
    j.leaves f.values

/-- A signed whole number is held by its word. -/
theorem exists_int_of_holds {n : Whole} {v : FilterScalar} (hn : n.val < 9223372036854775808)
    (h : Holds (.whole n) v) : ∃ m : Int64, v = .int m ∧ m.toInt = n.val := by
  cases v with
  | int m => exact ⟨m, rfl, h⟩
  | float x => exact absurd h.1 (Int.not_le.mpr hn)
  | text s => exact h.elim
  | bool b => exact h.elim

/-- Numbers that stay the same are signed. -/
theorem KeepsWholes.signed {f : Filter} {j : Json} (h : f.KeepsWholes j) : j.Signed := by
  rw [j.signed_iff_forall_mem_leaves]
  have hlt : List.Forall₂
      (fun leaf (_ : FilterScalar) => (∀ n, leaf = .whole n → n.val < 9223372036854775808) ∧ True)
      j.leaves f.scalars := by
    refine h.stored.imp fun leaf v hv => ⟨fun n hn => ?_, trivial⟩
    obtain ⟨m, -, hm⟩ := hv n hn
    exact hm ▸ m.toInt_lt
  exact ((List.forall₂_and_left _ _).mp hlt).1

/-- Signed numbers stay the same. -/
theorem keepsWholes_of_signed {f : Filter} {j : Json} (hall : List.Forall₂ Holds j.leaves f.scalars)
    (hs : j.Signed) : f.KeepsWholes j := by
  rw [j.signed_iff_forall_mem_leaves] at hs
  have hstored : List.Forall₂
      (fun leaf v => ∀ n, leaf = .whole n → ∃ m : Int64, v = .int m ∧ m.toInt = n.val)
      j.leaves f.scalars := by
    refine forall₂_imp_of_mem ?_ hall
    rintro leaf hleaf v hv n rfl
    exact exists_int_of_holds (hs _ hleaf n rfl) hv
  refine ⟨hstored, ?_⟩
  rw [f.values_eq_map_render, List.forall₂_map_right_iff]
  refine hstored.imp fun leaf v hv n hn => ?_
  obtain ⟨m, rfl, hm⟩ := hv n hn
  rw [← hm]
  rfl

/-- **The values of the object that a filter is read from are those of the filter and of its
expression, and its whole numbers stay the same exactly if they are signed.** -/
theorem keepsWholes_iff_signed {j : Json} (hd : j.Distinct) {f : Filter}
    (h : Filter.ofJson j = .ok f) :
    List.Forall₂ Holds j.leaves f.scalars ∧
      f.expression = " && ".intercalate (f.normalForm.map fun k => k.term.text) ∧
      f.values = f.scalars.map FilterScalar.render ∧
      (f.KeepsWholes j ↔ j.Signed) := by
  have hall := forall₂_holds_of_ofJson hd h
  exact ⟨hall, congrArg _ f.clauses_eq_map_text, f.values_eq_map_render, KeepsWholes.signed,
    keepsWholes_of_signed hall⟩

/-- The least and the greatest signed number stay the same, as a plain value, in a list, in a
comparison and among alternatives. -/
theorem keepsWholes_iff_signed_extremes :
    let least : Json := .whole ⟨-9223372036854775808, by decide⟩
    let greatest : Json := .whole ⟨9223372036854775807, by decide⟩
    let j : Json := .object
      [("id", least), ("size", .array [.bool true, greatest]), ("stock", .null),
        ("price", .object [("gte", least), ("neq", .array [greatest, .string "1"])]),
        ("rating", .array [.object [], .object [("lt", greatest)]])]
    j.Distinct ∧ j.Signed ∧ ∃ f, Filter.ofJson j = .ok f ∧ f.KeepsWholes j ∧
      f.values = ["-9223372036854775808", "true", "9223372036854775807", "-9223372036854775808",
        "9223372036854775807", "1", "9223372036854775807"] := by
  intro least greatest j
  have hd : j.Distinct := by
    simp [j, least, greatest, Json.Distinct, Json.DistinctItems, Json.DistinctMembers]
  have hs : j.Signed := by decide
  obtain ⟨f, hf⟩ : ∃ f, Filter.ofJson j = .ok f := ⟨_, rfl⟩
  obtain ⟨-, -, hvalues, hkeeps⟩ := keepsWholes_iff_signed hd hf
  refine ⟨hd, hs, f, hf, hkeeps.mpr hs, hvalues.trans ?_⟩
  cases hf
  decide

/-- A number beyond the signed ones is written with other digits. -/
theorem not_keepsWholes_identifier :
    let j : Json := .object [("id", .whole ⟨9223372036854775809, by decide⟩)]
    j.Distinct ∧ ∃ f, Filter.ofJson j = .ok f ∧ ¬ f.KeepsWholes j ∧
      f.expression = "id:=9223372036854776000" := by
  intro j
  have hd : j.Distinct := by simp [j, Json.Distinct, Json.DistinctMembers]
  obtain ⟨f, hf⟩ : ∃ f, Filter.ofJson j = .ok f := ⟨_, rfl⟩
  refine ⟨hd, f, hf, ?_, ?_⟩
  · intro hkeeps
    cases hf
    obtain ⟨hfirst, -⟩ := List.forall₂_cons.mp hkeeps.stored
    obtain ⟨m, hm, -⟩ := hfirst _ rfl
    cases hm
  · cases hf
    decide

end Filter

end CollectionSearch
