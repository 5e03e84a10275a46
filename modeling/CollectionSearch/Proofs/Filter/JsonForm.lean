import CollectionSearch.Filter.Signals
import CollectionSearch.Proofs.Filter.Reading

/-!
# The JSON form of filters

Every filter has at most one JSON form, and reading undoes writing. Two kinds of filters have none:
a number that is not finite would become `null`, and an empty list of maps would become the empty
list of values. Conversely an object that is read as a filter is the form of that filter, unless it
has a whole number beyond the signed range, which is read as a binary number.

* `FilterScalar.toJson`, `Operand.toJson`, `OperatorMap.toJson`, `Predicate.toJson`,
  `Filter.toJson` : the JSON form.
* `Filter.HasForm` : whether a filter has one that can be read back.
* `Json.wholes`, `Json.Signed` : the whole numbers inside a value, and whether all of them are
  signed 64-bit numbers.
* `Filter.IsFinite`, `Filter.reread` : whether all numbers of a filter are finite, and the filter
  that is then read from the form, with an empty list of maps become one of values.

**Main statements:** `ofJson_eq_ok_iff`, for values, operands, maps, predicates and filters, says
that what is read is exactly what was written. `ofJson_toJson_bijective` puts the two directions
side by side. `Filter.IsFinite.ofJson_toJson` needs only that numbers are finite.
-/

namespace CollectionSearch

/-! ## Whole numbers inside a value -/

namespace Json

mutual

/-- The whole numbers inside a value, in order. -/
def wholes : Json → List Whole
  | null => []
  | bool _ => []
  | whole n => [n]
  | decimal _ => []
  | string _ => []
  | array items => wholesItems items
  | object members => wholesMembers members

/-- The whole numbers inside the items of a list. -/
def wholesItems : List Json → List Whole
  | [] => []
  | j :: rest => j.wholes ++ wholesItems rest

/-- The whole numbers inside the values of members. -/
def wholesMembers : List (String × Json) → List Whole
  | [] => []
  | (_, j) :: rest => j.wholes ++ wholesMembers rest

end

/-- Whether all whole numbers inside a value are signed 64-bit numbers. -/
def Signed (j : Json) : Prop := ∀ n ∈ j.wholes, n.val < 9223372036854775808

instance (j : Json) : Decidable j.Signed := by
  unfold Signed
  infer_instance

/-- A value without whole numbers is signed. -/
theorem signed_of_wholes_eq_nil {j : Json} (h : j.wholes = []) : j.Signed := by
  intro n hn
  rw [h] at hn
  exact absurd hn List.not_mem_nil

theorem wholesItems_eq_flatMap (items : List Json) : wholesItems items = items.flatMap wholes := by
  induction items with
  | nil => rfl
  | cons j rest ih => rw [wholesItems, ih, List.flatMap_cons]

theorem wholesMembers_eq_flatMap (members : List (String × Json)) :
    wholesMembers members = members.flatMap fun m => m.2.wholes := by
  induction members with
  | nil => rfl
  | cons m rest ih => rw [wholesMembers, ih, List.flatMap_cons]

theorem signed_array_iff {items : List Json} :
    (array items).Signed ↔ ∀ j ∈ items, j.Signed := by
  rw [Signed, wholes, wholesItems_eq_flatMap, List.forall_mem_flatMap]
  rfl

theorem signed_object_iff {members : List (String × Json)} :
    (object members).Signed ↔ ∀ m ∈ members, m.2.Signed := by
  rw [Signed, wholes, wholesMembers_eq_flatMap, List.forall_mem_flatMap]
  rfl

theorem distinct_array_iff {items : List Json} :
    (array items).Distinct ↔ ∀ j ∈ items, j.Distinct := by
  rw [Distinct]
  induction items with
  | nil => exact ⟨fun _ => nofun, fun _ => trivial⟩
  | cons j rest ih => rw [DistinctItems, ih, List.forall_mem_cons]

theorem distinct_object_iff {members : List (String × Json)} :
    (object members).Distinct ↔
      (members.map Prod.fst).Nodup ∧ ∀ m ∈ members, m.2.Distinct := by
  have hmembers : DistinctMembers members ↔ ∀ m ∈ members, m.2.Distinct := by
    induction members with
    | nil => exact ⟨fun _ => nofun, fun _ => trivial⟩
    | cons m rest ih => rw [DistinctMembers, ih, List.forall_mem_cons]
  rw [Distinct, hmembers]

end Json

/-- A whole number is a signed word exactly when the word is written so. -/
theorem Whole.toInt64?_eq_some_iff {n : Whole} {i : Int64} :
    n.toInt64? = some i ↔ ofInt64 i = n := by
  constructor
  · intro h
    rw [toInt64?, Option.ite_none_right_eq_some] at h
    obtain ⟨hlt, ⟨⟩⟩ := h
    have hge := n.inRange.1
    exact Whole.ext (Int64.toInt_ofInt_of_le (by omega) (by omega))
  · rintro rfl
    exact toInt64?_ofInt64 i

/-! ## Writing -/

/-- The JSON form of a plain value. -/
def FilterScalar.toJson : FilterScalar → Json
  | text s => .string s
  | int n => .whole (.ofInt64 n)
  | float x => .ofDouble x
  | bool b => .bool b

/-- The JSON form of what a comparison compares with. -/
def Operand.toJson : Operand → Json
  | one value => value.toJson
  | many values => .array (values.map FilterScalar.toJson)

/-- The JSON form of a map of comparisons. -/
def OperatorMap.toJson (map : OperatorMap) : Json :=
  .object (map.entries.map fun e => (e.1.name, e.2.toJson))

/-- The JSON form of what is said of a field. -/
def Predicate.toJson : Predicate → Json
  | null => .null
  | scalar value => value.toJson
  | anyOf values => .array (values.map FilterScalar.toJson)
  | ops map => OperatorMap.toJson map
  | anyOps maps => .array (maps.map OperatorMap.toJson)

/-- The JSON form of a filter. -/
def Filter.toJson (f : Filter) : Json := .object (f.entries.map fun e => (e.1, e.2.toJson))

/-- Whether a value is no number or a finite one. -/
def FilterScalar.IsFinite : FilterScalar → Prop
  | float x => x.finite?.isSome = true
  | _ => True

/-- Whether the form of a predicate can be read back. -/
def Predicate.HasForm (p : Predicate) : Prop := p ≠ anyOps [] ∧ ∀ v ∈ p.scalars, v.IsFinite

/-- Whether the form of a filter can be read back. -/
def Filter.HasForm (f : Filter) : Prop := ∀ e ∈ f.entries, e.2.HasForm

instance : (v : FilterScalar) → Decidable v.IsFinite
  | .text _ => isTrue trivial
  | .int _ => isTrue trivial
  | .float x => inferInstanceAs (Decidable (x.finite?.isSome = true))
  | .bool _ => isTrue trivial

instance : (p : Predicate) → Decidable (p ≠ .anyOps [])
  | .null => isTrue nofun
  | .scalar _ => isTrue nofun
  | .anyOf _ => isTrue nofun
  | .ops _ => isTrue nofun
  | .anyOps [] => isFalse fun h => h rfl
  | .anyOps (_ :: _) => isTrue nofun

instance (f : Filter) : Decidable f.HasForm := by
  unfold Filter.HasForm Predicate.HasForm
  infer_instance

/-! ## Plain values -/

namespace FilterScalar

theorem exists_of_isFinite {x : Double} (h : (float x).IsFinite) : ∃ y, x = .finite y := by
  obtain ⟨y, hy⟩ := Option.isSome_iff_exists.mp h
  cases x with
  | finite z => exact ⟨z, rfl⟩
  | infinite s => cases hy
  | notANumber => cases hy

/-- The form of a value is read back. -/
theorem ofJson_toJson (field : String) {v : FilterScalar} (h : v.IsFinite) :
    ofJson field v.toJson = .ok v := by
  cases v with
  | text s => rfl
  | int n =>
      have hnumber : ofNumber? (int n).toJson = some (int n) := by
        simp [ofNumber?, toJson, Json.int64?]
      simp only [toJson] at hnumber ⊢
      simp only [ofJson, hnumber]
  | float x =>
      obtain ⟨y, rfl⟩ := exists_of_isFinite h
      rfl
  | bool b => rfl

/-- What is read as a value is the form of the value. -/
theorem toJson_of_ofJson {field : String} {j : Json} {v : FilterScalar} (hj : j.Signed)
    (h : ofJson field j = .ok v) : v.IsFinite ∧ v.toJson = j := by
  cases j with
  | null => cases h
  | bool b =>
      cases h
      exact ⟨trivial, rfl⟩
  | whole n =>
      have hn : n.val < 9223372036854775808 := hj n (List.mem_singleton_self n)
      have hword : n.toInt64? = some (Int64.ofInt n.val) := if_pos hn
      have hnumber : ofNumber? (.whole n) = some (int (Int64.ofInt n.val)) := by
        simp [ofNumber?, Json.int64?, hword]
      simp only [ofJson, hnumber] at h
      cases h
      exact ⟨trivial, congrArg Json.whole (Whole.toInt64?_eq_some_iff.mp hword)⟩
  | decimal x =>
      cases h
      exact ⟨rfl, rfl⟩
  | string s =>
      cases h
      exact ⟨trivial, rfl⟩
  | array items => cases h
  | object members => cases h

/-- A value is read from its form only. -/
theorem ofJson_eq_ok_iff (field : String) {j : Json} (hj : j.Signed) (v : FilterScalar) :
    ofJson field j = .ok v ↔ v.IsFinite ∧ v.toJson = j := by
  constructor
  · exact toJson_of_ofJson hj
  · rintro ⟨hv, rfl⟩
    exact ofJson_toJson field hv

/-- Values are read from the list of their forms only. -/
theorem listOfJson_eq_ok_iff (field : String) {items : List Json} (hj : (Json.array items).Signed)
    {values : List FilterScalar} :
    listOfJson field items = .ok values ↔
      (∀ v ∈ values, v.IsFinite) ∧ values.map toJson = items :=
  mapM_eq_ok_iff fun j hmem v => ofJson_eq_ok_iff field (Json.signed_array_iff.mp hj j hmem) v

/-- The form of a value is plain. -/
theorem isPlain_toJson {v : FilterScalar} (h : v.IsFinite) : v.toJson.IsPlain := by
  cases v with
  | float x =>
      obtain ⟨y, rfl⟩ := exists_of_isFinite h
      trivial
  | _ => trivial

/-- The form of a value is signed. -/
theorem signed_toJson (v : FilterScalar) : v.toJson.Signed := by
  cases v with
  | text s => exact Json.signed_of_wholes_eq_nil rfl
  | int n =>
      intro m hm
      rw [List.mem_singleton.mp hm]
      exact n.toInt_lt
  | float x => exact Json.signed_of_wholes_eq_nil (by cases x <;> rfl)
  | bool b => exact Json.signed_of_wholes_eq_nil rfl

/-- The form of a value repeats no name. -/
theorem distinct_toJson (v : FilterScalar) : v.toJson.Distinct := by
  cases v with
  | float x => cases x <;> trivial
  | _ => trivial

end FilterScalar

/-! ## Comparisons -/

/-- An operand is read from its form only. -/
theorem Operand.ofJson_eq_ok_iff (field : String) {j : Json} (hj : j.Signed) (o : Operand) :
    ofJson field j = .ok o ↔ (∀ v ∈ o.scalars, v.IsFinite) ∧ o.toJson = j := by
  constructor
  · intro h
    by_cases hlist : ∃ items, j = .array items
    · obtain ⟨items, rfl⟩ := hlist
      obtain ⟨values, hvalues, rfl⟩ := map_eq_ok_iff.mp h
      obtain ⟨hfinite, hform⟩ := (FilterScalar.listOfJson_eq_ok_iff field hj).mp hvalues
      exact ⟨hfinite, congrArg Json.array hform⟩
    · rw [ofJson_of_ne_array field (not_exists.mp hlist)] at h
      obtain ⟨v, hv, rfl⟩ := map_eq_ok_iff.mp h
      obtain ⟨hfinite, hform⟩ := FilterScalar.toJson_of_ofJson hj hv
      exact ⟨List.forall_mem_singleton.mpr hfinite, hform⟩
  · rintro ⟨hfinite, rfl⟩
    cases o with
    | one v =>
        have hv : v.IsFinite := hfinite v (List.mem_singleton_self v)
        rw [toJson, ofJson_of_ne_array field (FilterScalar.isPlain_toJson hv).ne_array,
          FilterScalar.ofJson_toJson field hv]
        rfl
    | many values =>
        rw [toJson, ofJson, (FilterScalar.listOfJson_eq_ok_iff field hj).mpr ⟨hfinite, rfl⟩]
        rfl

/-- The form of an operand is signed. -/
theorem Operand.signed_toJson (o : Operand) : o.toJson.Signed := by
  cases o with
  | one v => exact v.signed_toJson
  | many values =>
      exact Json.signed_array_iff.mpr (List.forall_mem_map.mpr fun v _ => v.signed_toJson)

/-- The form of an operand repeats no name. -/
theorem Operand.distinct_toJson (o : Operand) : o.toJson.Distinct := by
  cases o with
  | one v => exact v.distinct_toJson
  | many values =>
      exact Json.distinct_array_iff.mpr (List.forall_mem_map.mpr fun v _ => v.distinct_toJson)

/-- A comparison is read from its form only. -/
theorem OperatorMap.readMember_eq_ok_iff (field : String) {m : String × Json} (hm : m.2.Signed)
    (e : FilterOperator × Operand) :
    OperatorMap.readMember field m = .ok e ↔
      (∀ v ∈ e.2.scalars, v.IsFinite) ∧ (e.1.name, e.2.toJson) = m := by
  obtain ⟨name, j⟩ := m
  obtain ⟨op, o⟩ := e
  constructor
  · intro h
    rw [readMember] at h
    rcases hop : FilterOperator.ofName? name with _ | op' <;> simp only [hop] at h
    · cases h
    · obtain ⟨o', ho, ⟨⟩⟩ := map_eq_ok_iff.mp h
      obtain ⟨hfinite, rfl⟩ := (Operand.ofJson_eq_ok_iff field hm o).mp ho
      rw [FilterOperator.ofName?_eq_some_iff.mp hop]
      exact ⟨hfinite, rfl⟩
  · rintro ⟨hfinite, ⟨⟩⟩
    have ho := (Operand.ofJson_eq_ok_iff field hm o).mpr ⟨hfinite, rfl⟩
    simp only [readMember, FilterOperator.ofName?_name, ho]
    rfl

/-- An object of comparisons is read from its form only. -/
theorem OperatorMap.ofJson_eq_ok_iff (field : String) {j : Json} (hs : j.Signed) (hd : j.Distinct)
    (map : OperatorMap) :
    OperatorMap.ofJson field j = .ok map ↔
      (∀ v ∈ OperatorMap.scalars map, v.IsFinite) ∧ OperatorMap.toJson map = j := by
  by_cases hobject : ∃ members, j = .object members
  · obtain ⟨members, rfl⟩ := hobject
    rw [OperatorMap.ofJson_object, OperatorMap.scalars, List.forall_mem_flatMap,
      OperatorMap.toJson, Json.object.injEq]
    exact map_ofList_eq_ok_iff _ FilterOperator.name (fun _ => rfl)
      (Json.distinct_object_iff.mp hd).1 fun m hm e =>
        OperatorMap.readMember_eq_ok_iff field (Json.signed_object_iff.mp hs m hm) e
  · have hfail : OperatorMap.ofJson field j = .error (.invalidFilter field .notAnOperatorMap) := by
      cases j <;> first | rfl | exact absurd ⟨_, rfl⟩ hobject
    rw [hfail]
    constructor
    · intro h
      cases h
    · rintro ⟨-, hform⟩
      exact absurd ⟨_, hform.symm⟩ hobject

/-- The form of a map is signed. -/
theorem OperatorMap.signed_toJson (map : OperatorMap) : (OperatorMap.toJson map).Signed :=
  Json.signed_object_iff.mpr (List.forall_mem_map.mpr fun e _ => e.2.signed_toJson)

/-- The form of a map repeats no name. -/
theorem OperatorMap.distinct_toJson (map : OperatorMap) : (OperatorMap.toJson map).Distinct := by
  refine Json.distinct_object_iff.mpr ⟨?_, List.forall_mem_map.mpr fun e _ => e.2.distinct_toJson⟩
  have hnames : (map.entries.map fun e => (e.1.name, e.2.toJson)).map Prod.fst =
      (map.entries.map Prod.fst).map FilterOperator.name := by
    rw [List.map_map, List.map_map]
    rfl
  rw [hnames]
  exact map.distinct.map fun a b h => by
    have hname := FilterOperator.ofName?_name a
    rw [h, FilterOperator.ofName?_name, Option.some.injEq] at hname
    exact hname.symm

/-- An object of comparisons is read in a list as it is by itself. -/
theorem OperatorMap.ofItem_eq_ok_iff (field : String) {j : Json} (hs : j.Signed) (hd : j.Distinct)
    (map : OperatorMap) :
    OperatorMap.ofItem field j = .ok map ↔
      (∀ v ∈ OperatorMap.scalars map, v.IsFinite) ∧ OperatorMap.toJson map = j := by
  rw [← OperatorMap.ofJson_eq_ok_iff field hs hd]
  cases j with
  | object members => rfl
  | _ => exact iff_of_false nofun nofun

/-! ## Predicates -/

namespace Predicate

variable {field : String} {j : Json} {p : Predicate}

/-- The form of a predicate is signed. -/
theorem signed_toJson (p : Predicate) : p.toJson.Signed := by
  cases p with
  | null => exact Json.signed_of_wholes_eq_nil rfl
  | scalar v => exact v.signed_toJson
  | anyOf values =>
      exact Json.signed_array_iff.mpr (List.forall_mem_map.mpr fun v _ => v.signed_toJson)
  | ops map => exact OperatorMap.signed_toJson map
  | anyOps maps =>
      exact Json.signed_array_iff.mpr
        (List.forall_mem_map.mpr fun map _ => OperatorMap.signed_toJson map)

/-- The form of a predicate repeats no name. -/
theorem distinct_toJson (p : Predicate) : p.toJson.Distinct := by
  cases p with
  | null => trivial
  | scalar v => exact v.distinct_toJson
  | anyOf values =>
      exact Json.distinct_array_iff.mpr (List.forall_mem_map.mpr fun v _ => v.distinct_toJson)
  | ops map => exact OperatorMap.distinct_toJson map
  | anyOps maps =>
      exact Json.distinct_array_iff.mpr
        (List.forall_mem_map.mpr fun map _ => OperatorMap.distinct_toJson map)

/-- Maps are read from the list of their forms only. -/
theorem mapM_ofItem_eq_ok_iff (field : String) {items : List Json} (hs : (Json.array items).Signed)
    (hd : (Json.array items).Distinct) {maps : List OperatorMap} :
    items.mapM (OperatorMap.ofItem field) = .ok maps ↔
      (∀ map ∈ maps, ∀ v ∈ OperatorMap.scalars map, v.IsFinite) ∧
        maps.map OperatorMap.toJson = items :=
  mapM_eq_ok_iff fun j hmem map =>
    OperatorMap.ofItem_eq_ok_iff field (Json.signed_array_iff.mp hs j hmem)
      (Json.distinct_array_iff.mp hd j hmem) map

/-- The form of a predicate is read back. -/
theorem ofJson_toJson (field : String) {p : Predicate} (h : p.HasForm) :
    ofJson field p.toJson = .ok p := by
  obtain ⟨hne, hfinite⟩ := h
  have hs := p.signed_toJson
  have hd := p.distinct_toJson
  cases p with
  | null => rfl
  | scalar v =>
      have hv : v.IsFinite := hfinite v (List.mem_singleton_self v)
      rw [toJson, ofJson_of_isPlain field (FilterScalar.isPlain_toJson hv),
        FilterScalar.ofJson_toJson field hv]
      rfl
  | anyOf values =>
      have hfirst : ∀ members rest, values.map FilterScalar.toJson ≠ .object members :: rest := by
        intro members rest hvalues
        obtain ⟨v, others, rfl, hv, -⟩ := List.map_eq_cons_iff.mp hvalues
        exact (FilterScalar.isPlain_toJson (hfinite v List.mem_cons_self)).ne_object members hv
      rw [toJson, ofJson_array field hfirst,
        (FilterScalar.listOfJson_eq_ok_iff field hs).mpr ⟨hfinite, rfl⟩]
      rfl
  | ops map =>
      have hmap := (OperatorMap.ofJson_eq_ok_iff field hs hd map).mpr ⟨hfinite, rfl⟩
      exact map_eq_ok_iff.mpr ⟨map, hmap, rfl⟩
  | anyOps maps =>
      rcases maps with _ | ⟨map, rest⟩
      · exact absurd rfl hne
      · have hmaps := (mapM_ofItem_eq_ok_iff field hs hd).mpr
          ⟨List.forall_mem_flatMap.mp hfinite, rfl⟩
        exact map_eq_ok_iff.mpr ⟨map :: rest, hmaps, rfl⟩

/-- What is read as a predicate is the form of the predicate. -/
theorem toJson_of_ofJson (hs : j.Signed) (hd : j.Distinct) (h : ofJson field j = .ok p) :
    p.HasForm ∧ p.toJson = j := by
  have hplain : j.IsPlain → p.HasForm ∧ p.toJson = j := by
    intro hj
    rw [ofJson_of_isPlain field hj] at h
    obtain ⟨v, hv, rfl⟩ := map_eq_ok_iff.mp h
    obtain ⟨hfinite, hform⟩ := FilterScalar.toJson_of_ofJson hs hv
    exact ⟨⟨nofun, List.forall_mem_singleton.mpr hfinite⟩, hform⟩
  cases j with
  | null =>
      cases h
      exact ⟨⟨nofun, List.forall_mem_nil _⟩, rfl⟩
  | array items =>
      by_cases hfirst : ∃ members rest, items = .object members :: rest
      · obtain ⟨members, rest, rfl⟩ := hfirst
        obtain ⟨maps, hmaps, rfl⟩ := map_eq_ok_iff.mp h
        obtain ⟨hfinite, hform⟩ := (mapM_ofItem_eq_ok_iff field hs hd).mp hmaps
        refine ⟨⟨?_, List.forall_mem_flatMap.mpr hfinite⟩, congrArg Json.array hform⟩
        rintro ⟨⟩
        cases hform
      · rw [ofJson_array field fun members rest hitems => hfirst ⟨members, rest, hitems⟩] at h
        obtain ⟨values, hvalues, rfl⟩ := map_eq_ok_iff.mp h
        obtain ⟨hfinite, hform⟩ := (FilterScalar.listOfJson_eq_ok_iff field hs).mp hvalues
        exact ⟨⟨nofun, hfinite⟩, congrArg Json.array hform⟩
  | object members =>
      obtain ⟨map, hmap, rfl⟩ := map_eq_ok_iff.mp h
      obtain ⟨hfinite, hform⟩ := (OperatorMap.ofJson_eq_ok_iff field hs hd map).mp hmap
      exact ⟨⟨nofun, hfinite⟩, hform⟩
  | _ => exact hplain trivial

/-- A predicate is read from its form only. -/
theorem ofJson_eq_ok_iff (field : String) (hs : j.Signed) (hd : j.Distinct) (p : Predicate) :
    ofJson field j = .ok p ↔ p.HasForm ∧ p.toJson = j := by
  constructor
  · exact toJson_of_ofJson hs hd
  · rintro ⟨hform, rfl⟩
    exact ofJson_toJson field hform

end Predicate

/-! ## Filters -/

/-- A filter is read from its form only. -/
theorem Filter.ofJson_eq_ok_iff {j : Json} (hs : j.Signed) (hd : j.Distinct) (f : Filter) :
    Filter.ofJson j = .ok f ↔ f.HasForm ∧ f.toJson = j := by
  by_cases hobject : ∃ members, j = .object members
  · obtain ⟨members, rfl⟩ := hobject
    rw [Filter.ofJson_eq_map, Filter.toJson, Json.object.injEq]
    refine map_ofList_eq_ok_iff (P := fun e => e.2.HasForm)
      (fun e : String × Predicate => (e.1, e.2.toJson)) id (fun _ => rfl)
      (Json.distinct_object_iff.mp hd).1 ?_
    rintro ⟨field, j⟩ hm ⟨field', p⟩
    have hread := Predicate.ofJson_eq_ok_iff field (Json.signed_object_iff.mp hs _ hm)
      ((Json.distinct_object_iff.mp hd).2 _ hm) p
    rw [readMember, map_eq_ok_iff]
    constructor
    · rintro ⟨_, hp, ⟨⟩⟩
      obtain ⟨hform, rfl⟩ := hread.mp hp
      exact ⟨hform, rfl⟩
    · rintro ⟨hform, ⟨⟩⟩
      exact ⟨p, hread.mpr ⟨hform, rfl⟩, rfl⟩
  · have hfail : Filter.ofJson j = .error (.invalidFilter "" .notAnObject) := by
      cases j <;> first | rfl | exact absurd ⟨_, rfl⟩ hobject
    rw [hfail]
    constructor
    · intro h
      cases h
    · rintro ⟨-, hform⟩
      exact absurd ⟨_, hform.symm⟩ hobject

/-- The form of a filter is signed. -/
theorem Filter.signed_toJson (f : Filter) : f.toJson.Signed :=
  Json.signed_object_iff.mpr (List.forall_mem_map.mpr fun e _ => e.2.signed_toJson)

/-- The form of a filter repeats no name. -/
theorem Filter.distinct_toJson (f : Filter) : f.toJson.Distinct := by
  refine Json.distinct_object_iff.mpr ⟨?_, List.forall_mem_map.mpr fun e _ => e.2.distinct_toJson⟩
  have hnames : (f.entries.map fun e => (e.1, e.2.toJson)).map Prod.fst =
      f.entries.map Prod.fst := by
    rw [List.map_map]
    rfl
  rw [hnames]
  exact f.distinct

/-- **Reading and writing filters are inverse to each other.** The form of a filter is read as that
filter, if its numbers are finite and no field has an empty list of maps. A value that is read as a
filter is the form of that filter, if its whole numbers are signed. Objects that repeat a name are
left out: reading JSON text makes none. -/
theorem ofJson_toJson_bijective :
    (∀ f : Filter, f.HasForm →
      f.toJson.Signed ∧ f.toJson.Distinct ∧ Filter.ofJson f.toJson = .ok f) ∧
    ∀ j : Json, j.Signed → j.Distinct → ∀ f, Filter.ofJson j = .ok f →
      f.HasForm ∧ f.toJson = j := by
  constructor
  · intro f hform
    have hread := Filter.ofJson_eq_ok_iff f.signed_toJson f.distinct_toJson f
    exact ⟨f.signed_toJson, f.distinct_toJson, hread.mpr ⟨hform, rfl⟩⟩
  · intro j hs hd f
    exact (Filter.ofJson_eq_ok_iff hs hd f).mp

/-- A filter with a number that is not whole is read back from its form, and an object with
comparisons of all kinds is written again as it was read. -/
theorem ofJson_toJson_bijective_sample :
    let half : FiniteBinary binary64 := ⟨false, 4503599627370496, -53, by decide⟩
    let f := Filter.empty.eq "weight" (.float (.finite half)) |>.null "brand" |>.anyOf "size" []
    let j : Json := .object
      [("price",
          .object [("gte", .whole (.ofInt64 (-3))), ("neq", .array [.bool true, .string ""])]),
        ("stock", .array [.object [("gt", .decimal half)], .object []])]
    Filter.ofJson f.toJson = .ok f ∧ ∃ g, Filter.ofJson j = .ok g ∧ g.HasForm ∧ g.toJson = j := by
  intro half f j
  have hf : f.HasForm := by decide
  have hs : j.Signed := by decide
  have hd : j.Distinct := by simp [j, Json.Distinct, Json.DistinctItems, Json.DistinctMembers]
  obtain ⟨g, hg⟩ : ∃ g, Filter.ofJson j = .ok g := ⟨_, rfl⟩
  exact ⟨(ofJson_toJson_bijective.1 f hf).2.2, g, hg, ofJson_toJson_bijective.2 j hs hd g hg⟩

/-! ## Filters with an empty list of maps -/

/-- What is read from the form of a predicate: an empty list of maps has become one of values. -/
def Predicate.reread : Predicate → Predicate
  | anyOps [] => anyOf []
  | p => p

namespace Predicate

variable (p : Predicate)

@[simp] theorem toJson_reread : p.reread.toJson = p.toJson := by
  cases p with
  | anyOps maps => cases maps <;> rfl
  | _ => rfl

@[simp] theorem scalars_reread : p.reread.scalars = p.scalars := by
  cases p with
  | anyOps maps => cases maps <;> rfl
  | _ => rfl

@[simp] theorem isDropped_reread : p.reread.isDropped = p.isDropped := by
  cases p with
  | anyOps maps => cases maps <;> rfl
  | _ => rfl

@[simp] theorem clause?_reread (field : String) : p.reread.clause? field = p.clause? field := by
  cases p with
  | anyOps maps => cases maps <;> rfl
  | _ => rfl

theorem reread_ne_anyOps_nil : p.reread ≠ anyOps [] := by
  cases p with
  | anyOps maps => cases maps <;> nofun
  | _ => nofun

end Predicate

namespace Filter

/-- Whether all numbers of a filter are finite. -/
def IsFinite (f : Filter) : Prop := ∀ e ∈ f.entries, ∀ v ∈ e.2.scalars, v.IsFinite

instance decidableIsFinite (f : Filter) : Decidable f.IsFinite := by
  unfold IsFinite
  infer_instance

/-- The filter that is read from the form. -/
def reread (f : Filter) : Filter where
  entries := f.entries.map fun e => (e.1, e.2.reread)
  distinct := by
    rw [List.map_map]
    exact f.distinct

variable (f : Filter)

@[simp] theorem toJson_reread : f.reread.toJson = f.toJson := by
  simp [toJson, reread]

/-- What is read from the form has the same clauses. -/
@[simp] theorem clauses_reread : f.reread.clauses = f.clauses := by
  simp [clauses, reread, List.filterMap_map]

@[simp] theorem expression_reread : f.reread.expression = f.expression := by
  rw [expression, clauses_reread, expression]

/-- What is read from the form gives the same signals. -/
@[simp] theorem compileSignalsFor_reread (s : CollectionSchema) :
    f.reread.compileSignalsFor s = f.compileSignalsFor s := by
  have hundeclared : f.reread.undeclared s = f.undeclared s := by
    simp [undeclared, reread, List.filter_map, Function.comp_def]
  have hwarnings : f.reread.warnings = f.warnings := by
    simp [warnings, reread, List.flatMap_map]
  rw [compileSignalsFor, compileSignals, hundeclared, hwarnings, clauses_reread]
  rfl

/-- The form of what is read can be read back, if all numbers are finite. -/
theorem IsFinite.hasForm_reread {f : Filter} (h : f.IsFinite) : f.reread.HasForm := by
  refine List.forall_mem_map.mpr fun e he => ⟨e.2.reread_ne_anyOps_nil, ?_⟩
  rw [Predicate.scalars_reread]
  exact h e he

/-- **A filter whose numbers are finite is read from its form**, up to an empty list of maps. -/
theorem IsFinite.ofJson_toJson {f : Filter} (h : f.IsFinite) :
    Filter.ofJson f.toJson = .ok f.reread :=
  (ofJson_eq_ok_iff f.signed_toJson f.distinct_toJson f.reread).mpr
    ⟨h.hasForm_reread, f.toJson_reread⟩

end Filter

end CollectionSearch
