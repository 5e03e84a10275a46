import CollectionSearch.Proofs.Filter.Reading

/-!
# The grammar of filters and the first defect

Which JSON values are filters can be said without reading them. The reader accepts exactly these.
Of any other object it reports the first defect that is met when the object is gone through in the
order in which it is written, depth first. A list that begins with an object is a list of objects
throughout, and any other list is one of plain values.

* `IsOperand`, `IsComparisons`, `IsPredicate`, `IsFilter` : the grammar.
* `Json.shape` : what kind of value it is, as far as the grammar asks.
* `Spot` : a place where something certain must stand; `Spot.Fine` : whether it does;
  `Spot.error?` : what is reported otherwise.
* `Predicate.spots` : all places inside the value of a field, in order.

**Main statements:** `errorOf_ofJson`, for predicates and filters, says that the error is the one of
the first defective spot, `isPredicate_iff_fine` that the grammar has no others, and
`ofJson_blames_first_defect` puts together what is accepted and what is reported.
-/

namespace CollectionSearch

/-! ## The grammar -/

/-- What a comparison may compare with: a plain value or a list of them. -/
inductive IsOperand : Json → Prop where
  | one {j : Json} (h : j.IsPlain) : IsOperand j
  | many {items : List Json} (h : ∀ j ∈ items, j.IsPlain) : IsOperand (.array items)

/-- Objects of comparisons. -/
inductive IsComparisons : Json → Prop where
  | object {members : List (String × Json)}
      (names : ∀ m ∈ members, m.1 ∈ FilterOperator.all.map FilterOperator.name)
      (operands : ∀ m ∈ members, IsOperand m.2) : IsComparisons (.object members)

/-- What may be said of a field. -/
inductive IsPredicate : Json → Prop where
  | null : IsPredicate .null
  | scalar {j : Json} (h : j.IsPlain) : IsPredicate j
  | anyOf {items : List Json} (h : ∀ j ∈ items, j.IsPlain) : IsPredicate (.array items)
  | ops {j : Json} (h : IsComparisons j) : IsPredicate j
  | anyOps {items : List Json} (nonempty : items ≠ []) (h : ∀ j ∈ items, IsComparisons j) :
      IsPredicate (.array items)

/-- The JSON values that are filters. -/
inductive IsFilter : Json → Prop where
  | object {members : List (String × Json)} (h : ∀ m ∈ members, IsPredicate m.2) :
      IsFilter (.object members)

/-! ## Spots -/

/-- The kinds of values that the grammar tells apart. -/
inductive Shape where
  | null
  | plain
  | list
  | object
  deriving DecidableEq

/-- The kind of a value. -/
def Json.shape : Json → Shape
  | .null => .null
  | .array _ => .list
  | .object _ => .object
  | _ => .plain

theorem Json.shape_eq_plain_iff (j : Json) : j.shape = .plain ↔ j.IsPlain := by
  cases j <;> simp [shape, IsPlain]

/-- A place inside the value of a field where something certain must stand. Of what does stand there
no more is kept than its kind, which is known before its own parts are. -/
inductive Spot where
  /-- A plain value must stand here. -/
  | plain (found : Shape)
  /-- The name of a comparison must stand here. -/
  | name (n : String)
  /-- An object of comparisons must stand here. -/
  | object (found : Shape)

namespace Spot

/-- Whether what must stand in a place does. -/
def Fine : Spot → Prop
  | plain found => found = .plain
  | name n => n ∈ FilterOperator.all.map FilterOperator.name
  | object found => found = .object

/-- What is reported of a place in the value of a field. -/
def error? (field : String) : Spot → Option QueryError
  | plain .null => some (.invalidFilter field .nullInList)
  | plain .list => some (.invalidFilter field .nestedList)
  | plain .object => some (.invalidFilter field .unexpectedObject)
  | plain .plain => none
  | name n =>
    if n ∈ FilterOperator.all.map FilterOperator.name then none
    else some (.unknownOperator field n)
  | object .object => none
  | object _ => some (.invalidFilter field .mixedList)

/-- A plain value must stand where a value does. -/
def ofValue (j : Json) : Spot := plain j.shape

theorem fine_ofValue_iff (j : Json) : (ofValue j).Fine ↔ j.IsPlain := j.shape_eq_plain_iff

end Spot

/-- The places inside an operand. -/
def Operand.spots : Json → List Spot
  | .array items => items.map .ofValue
  | j => [.ofValue j]

/-- The places inside a member of an object of comparisons. -/
def OperatorMap.memberSpots (m : String × Json) : List Spot := .name m.1 :: Operand.spots m.2

/-- The places inside an object of comparisons. -/
def OperatorMap.spots : Json → List Spot
  | .object members => .object .object :: members.flatMap OperatorMap.memberSpots
  | j => [.object j.shape]

/-- The places inside the value of a field, in the order in which it is written. -/
def Predicate.spots : Json → List Spot
  | .null => []
  | .array (.object members :: items) => (.object members :: items).flatMap OperatorMap.spots
  | .array items => items.map .ofValue
  | .object members => OperatorMap.spots (.object members)
  | j => [.ofValue j]

/-- An operand that is no list is a single spot. -/
theorem Operand.spots_of_ne_array {j : Json} (h : ∀ items, j ≠ .array items) :
    Operand.spots j = [.ofValue j] := by
  cases j <;> first | rfl | exact absurd rfl (h _)

/-- A plain value is a single spot. -/
theorem Predicate.spots_of_isPlain {j : Json} (h : j.IsPlain) :
    Predicate.spots j = [.ofValue j] := by
  cases j <;> first | rfl | exact h.elim

/-- A list that does not begin with an object is one spot after the other. -/
theorem Predicate.spots_array {items : List Json}
    (h : ∀ members rest, items ≠ .object members :: rest) :
    Predicate.spots (.array items) = items.map .ofValue := by
  rcases items with _ | ⟨j, rest⟩
  · rfl
  · cases j <;> first | rfl | exact absurd rfl (h _ rest)

/-! ## The grammar by spots -/

theorem isOperand_iff_fine (j : Json) : IsOperand j ↔ ∀ s ∈ Operand.spots j, s.Fine := by
  by_cases hlist : ∃ items, j = .array items
  · obtain ⟨items, rfl⟩ := hlist
    rw [Operand.spots, List.forall_mem_map]
    simp only [Spot.fine_ofValue_iff]
    constructor
    · rintro (h | h)
      · exact h.elim
      · exact h
    · exact .many
  · rw [Operand.spots_of_ne_array (not_exists.mp hlist), List.forall_mem_singleton,
      Spot.fine_ofValue_iff]
    constructor
    · rintro (h | h)
      · exact h
      · exact absurd ⟨_, rfl⟩ hlist
    · exact .one

theorem isComparisons_iff_fine (j : Json) :
    IsComparisons j ↔ ∀ s ∈ OperatorMap.spots j, s.Fine := by
  cases j with
  | object members =>
      have hspots : (∀ s ∈ OperatorMap.spots (.object members), s.Fine) ↔
          ∀ m ∈ members, m.1 ∈ FilterOperator.all.map FilterOperator.name ∧ IsOperand m.2 := by
        rw [OperatorMap.spots, List.forall_mem_cons, List.forall_mem_flatMap]
        refine (and_iff_right rfl).trans (forall₂_congr fun m _ => ?_)
        rw [OperatorMap.memberSpots, List.forall_mem_cons, ← isOperand_iff_fine]
        rfl
      rw [hspots]
      constructor
      · rintro ⟨hnames, hoperands⟩
        exact fun m hm => ⟨hnames m hm, hoperands m hm⟩
      · exact fun h => .object (fun m hm => (h m hm).1) fun m hm => (h m hm).2
  | _ => exact iff_of_false nofun fun h => nomatch h _ (List.mem_singleton_self _)

/-- The values of fields that have no defective spot are the predicates. -/
theorem isPredicate_iff_fine (j : Json) : IsPredicate j ↔ ∀ s ∈ Predicate.spots j, s.Fine := by
  cases j with
  | null => exact iff_of_true .null nofun
  | array items =>
      by_cases hfirst : ∃ members rest, items = .object members :: rest
      · obtain ⟨members, rest, rfl⟩ := hfirst
        rw [Predicate.spots, List.forall_mem_flatMap]
        constructor
        · rintro (_ | h | h | h | ⟨-, h⟩)
          · exact h.elim
          · exact (h _ List.mem_cons_self).elim
          · exact nomatch h
          · exact fun j hj => (isComparisons_iff_fine j).mp (h j hj)
        · intro h
          exact .anyOps (List.cons_ne_nil _ _) fun j hj => (isComparisons_iff_fine j).mpr (h j hj)
      · have hitems : ∀ members rest, items ≠ .object members :: rest :=
          fun members rest hitems => hfirst ⟨members, rest, hitems⟩
        rw [Predicate.spots_array hitems, List.forall_mem_map]
        simp only [Spot.fine_ofValue_iff]
        constructor
        · rintro (_ | h | h | h | ⟨hne, h⟩)
          · exact h.elim
          · exact h
          · exact nomatch h
          · obtain ⟨j, rest, rfl⟩ := List.exists_cons_of_ne_nil hne
            obtain ⟨members⟩ := h j List.mem_cons_self
            exact absurd rfl (hitems _ _)
        · exact .anyOf
  | object members =>
      rw [Predicate.spots, ← isComparisons_iff_fine]
      constructor
      · rintro (_ | h | _ | h)
        · exact h.elim
        · exact h
      · exact .ops
  | _ => exact iff_of_true (.scalar trivial) (List.forall_mem_singleton.mpr rfl)

/-! ## The error by spots -/

theorem Spot.error?_eq_none_iff (field : String) (s : Spot) :
    s.error? field = none ↔ s.Fine := by
  cases s with
  | plain found => cases found <;> simp [error?, Fine]
  | name n => simp [error?, Fine]
  | object found => cases found <;> simp [error?, Fine]

/-- What is found in joined lists is what is found in the first of them that has it. -/
theorem findSome?_flatMap {α β γ : Type} (f : β → Option γ) (g : α → List β) (l : List α) :
    (l.flatMap g).findSome? f = l.findSome? fun a => (g a).findSome? f := by
  induction l with
  | nil => rfl
  | cons a rest ih =>
      rw [List.flatMap_cons, List.findSome?_append, ih, List.findSome?_cons]
      cases (g a).findSome? f <;> rfl

section error

variable (field : String)

theorem FilterScalar.errorOf_ofJson (j : Json) :
    errorOf (FilterScalar.ofJson field j) = (Spot.ofValue j).error? field := by
  cases j with
  | whole n =>
      -- a whole number that is no signed word still has a binary number nearest to it
      have hnumber : (ofNumber? (.whole n)).isSome = true := by
        rw [ofNumber?, Json.int64?, Json.double?]
        cases n.toInt64? <;> rfl
      obtain ⟨v, hv⟩ := Option.isSome_iff_exists.mp hnumber
      simp only [ofJson, hv]
      rfl
  | _ => rfl

theorem FilterScalar.errorOf_listOfJson (items : List Json) :
    errorOf (FilterScalar.listOfJson field items) =
      (items.map .ofValue).findSome? (Spot.error? field) := by
  rw [listOfJson, errorOf_mapM, List.findSome?_map]
  exact congrArg (fun f => items.findSome? f) (funext fun j => errorOf_ofJson field j)

theorem Operand.errorOf_ofJson (j : Json) :
    errorOf (Operand.ofJson field j) = (Operand.spots j).findSome? (Spot.error? field) := by
  by_cases hlist : ∃ items, j = .array items
  · obtain ⟨items, rfl⟩ := hlist
    rw [ofJson, errorOf_map, FilterScalar.errorOf_listOfJson, spots]
  · have hone : ∀ items, j ≠ .array items := not_exists.mp hlist
    rw [ofJson_of_ne_array field hone, errorOf_map, FilterScalar.errorOf_ofJson,
      spots_of_ne_array hone, List.findSome?_singleton]

theorem OperatorMap.errorOf_readMember (m : String × Json) :
    errorOf (OperatorMap.readMember field m) =
      (OperatorMap.memberSpots m).findSome? (Spot.error? field) := by
  rw [memberSpots, List.findSome?_cons, ← Operand.errorOf_ofJson]
  by_cases hname : m.1 ∈ FilterOperator.all.map FilterOperator.name
  · obtain ⟨op, -, hop⟩ := List.mem_map.mp hname
    have hfine : (Spot.name m.1).error? field = none := if_pos hname
    simp only [readMember, FilterOperator.ofName?_eq_some_iff.mpr hop, hfine, errorOf_map]
  · have hnone : FilterOperator.ofName? m.1 = none := by
      rw [Option.eq_none_iff_forall_ne_some]
      intro op hop
      have hmem : op ∈ FilterOperator.all := by cases op <;> decide
      exact hname (List.mem_map.mpr ⟨op, hmem, FilterOperator.ofName?_eq_some_iff.mp hop⟩)
    have hdefect : (Spot.name m.1).error? field = some (.unknownOperator field m.1) :=
      if_neg hname
    simp only [readMember, hnone, hdefect, errorOf_error]

theorem OperatorMap.errorOf_ofJson_object (members : List (String × Json)) :
    errorOf (OperatorMap.ofJson field (.object members)) =
      (OperatorMap.spots (.object members)).findSome? (Spot.error? field) := by
  have hobject : (Spot.object .object).error? field = none := rfl
  rw [ofJson_object, errorOf_map, errorOf_mapM, spots, List.findSome?_cons, hobject,
    findSome?_flatMap]
  exact congrArg (fun f => members.findSome? f) (funext (errorOf_readMember field))

theorem OperatorMap.errorOf_ofItem (j : Json) :
    errorOf (OperatorMap.ofItem field j) =
      (OperatorMap.spots j).findSome? (Spot.error? field) := by
  cases j with
  | object members => exact errorOf_ofJson_object field members
  | _ => rfl

/-- The error of the value of a field is the one of its first defective spot. -/
theorem Predicate.errorOf_ofJson (j : Json) :
    errorOf (Predicate.ofJson field j) =
      (Predicate.spots j).findSome? (Spot.error? field) := by
  have hscalar (hj : j.IsPlain) :
      errorOf (ofJson field j) = (spots j).findSome? (Spot.error? field) := by
    rw [ofJson_of_isPlain field hj, errorOf_map, FilterScalar.errorOf_ofJson,
      spots_of_isPlain hj, List.findSome?_singleton]
  cases j with
  | null => rfl
  | array items =>
      by_cases hfirst : ∃ members rest, items = .object members :: rest
      · obtain ⟨members, rest, rfl⟩ := hfirst
        rw [ofJson, errorOf_map, errorOf_mapM, spots, findSome?_flatMap]
        exact congrArg (fun f => List.findSome? f _) (funext (OperatorMap.errorOf_ofItem field))
      · have hitems : ∀ members rest, items ≠ .object members :: rest :=
          fun members rest hitems => hfirst ⟨members, rest, hitems⟩
        rw [ofJson_array field hitems, errorOf_map, FilterScalar.errorOf_listOfJson,
          spots_array hitems]
  | object members =>
      exact (errorOf_map _ _).trans (OperatorMap.errorOf_ofJson_object field members)
  | _ => exact hscalar trivial

end error

/-- The error of a filter is the one of the first defective spot. -/
theorem Filter.errorOf_ofJson (members : List (String × Json)) :
    errorOf (Filter.ofJson (.object members)) =
      members.findSome? fun m => (Predicate.spots m.2).findSome? (Spot.error? m.1) := by
  rw [ofJson_eq_map, errorOf_map, errorOf_mapM]
  refine congrArg (fun f => members.findSome? f) (funext fun m => ?_)
  rw [readMember, errorOf_map, Predicate.errorOf_ofJson]

/-! ## The first defect -/

/-- The first defect of a filter object: everything in front of it is as it must be. -/
structure FirstDefect (members : List (String × Json)) where
  /-- The members in front of the one that has the defect. -/
  before : List (String × Json)
  /-- The field that has the defect. -/
  field : String
  /-- The value that has the defect. -/
  value : Json
  /-- The members after it. -/
  after : List (String × Json)
  /-- The places in the value in front of the defect. -/
  earlier : List Spot
  /-- The place of the defect. -/
  spot : Spot
  /-- The places in the value after it. -/
  later : List Spot
  members_eq : members = before ++ (field, value) :: after
  spots_eq : Predicate.spots value = earlier ++ spot :: later
  before_isPredicate : ∀ m ∈ before, IsPredicate m.2
  earlier_fine : ∀ s ∈ earlier, s.Fine
  not_fine : ¬ spot.Fine

namespace FirstDefect

variable {members : List (String × Json)} (d : FirstDefect members)

/-- The value that has the defect is no predicate. -/
theorem not_isPredicate : ¬ IsPredicate d.value := by
  rw [isPredicate_iff_fine, d.spots_eq]
  intro h
  exact d.not_fine (h d.spot (by simp))

/-- What is reported of a value whose places up to the defect are the same, whatever comes after. -/
theorem ofJson_eq_error {e : QueryError} (he : d.spot.error? d.field = some e) {value : Json}
    (hvalue : d.earlier ++ [d.spot] <+: Predicate.spots value) (after : List (String × Json)) :
    Filter.ofJson (.object (d.before ++ (d.field, value) :: after)) = .error e := by
  have hbefore : ∀ m ∈ d.before, (Predicate.spots m.2).findSome? (Spot.error? m.1) = none := by
    intro m hm
    rw [List.findSome?_eq_none_iff]
    intro s hs
    exact (s.error?_eq_none_iff m.1).mpr
      ((isPredicate_iff_fine m.2).mp (d.before_isPredicate m hm) s hs)
  have hspots : (d.earlier ++ [d.spot]).findSome? (Spot.error? d.field) = some e := by
    rw [List.findSome?_eq_some_iff]
    exact ⟨d.earlier, d.spot, [], rfl, he, fun s hs =>
      (s.error?_eq_none_iff d.field).mpr (d.earlier_fine s hs)⟩
  rw [← errorOf_eq_some_iff, Filter.errorOf_ofJson, List.findSome?_eq_some_iff]
  exact ⟨d.before, (d.field, value), after, rfl, hvalue.findSome?_eq_some hspots, hbefore⟩

end FirstDefect

/-- An object that is refused has a first defect, which is reported. -/
theorem exists_firstDefect {members : List (String × Json)} {e : QueryError}
    (h : Filter.ofJson (.object members) = .error e) :
    ∃ d : FirstDefect members, d.spot.error? d.field = some e := by
  rw [← errorOf_eq_some_iff, Filter.errorOf_ofJson, List.findSome?_eq_some_iff] at h
  obtain ⟨before, ⟨field, value⟩, after, hmembers, hvalue, hbefore⟩ := h
  obtain ⟨earlier, spot, later, hspots, he, hearlier⟩ := List.findSome?_eq_some_iff.mp hvalue
  have hpredicates : ∀ m ∈ before, IsPredicate m.2 := by
    intro m hm
    rw [isPredicate_iff_fine]
    intro s hs
    exact (s.error?_eq_none_iff m.1).mp (List.findSome?_eq_none_iff.mp (hbefore m hm) s hs)
  have hfine : ∀ s ∈ earlier, s.Fine := fun s hs =>
    (s.error?_eq_none_iff field).mp (hearlier s hs)
  have hdefect : ¬ spot.Fine := by
    rw [← spot.error?_eq_none_iff field, he]
    exact Option.some_ne_none e
  exact ⟨⟨before, field, value, after, earlier, spot, later, hmembers, hspots, hpredicates, hfine,
    hdefect⟩, he⟩

/-- What is reported of a place names the field, and an unknown name of a comparison is reported of
exactly those places where it stands. -/
theorem Spot.error?_eq_some {field : String} {s : Spot} {e : QueryError}
    (h : s.error? field = some e) :
    ((∃ n, e = .unknownOperator field n) ∨
        ∃ fault, e = .invalidFilter field fault ∧ fault ≠ .notAnOperatorMap ∧
          fault ≠ .numberOutOfRange) ∧
      ∀ field' n, e = .unknownOperator field' n ↔ field' = field ∧ s = .name n := by
  have hinvalid {s : Spot} (hs : ∀ n, s ≠ .name n) (he : ∃ fault, e = .invalidFilter field fault ∧
      fault ≠ .notAnOperatorMap ∧ fault ≠ .numberOutOfRange) :
      ((∃ n, e = .unknownOperator field n) ∨
          ∃ fault, e = .invalidFilter field fault ∧ fault ≠ .notAnOperatorMap ∧
            fault ≠ .numberOutOfRange) ∧
        ∀ field' n, e = .unknownOperator field' n ↔ field' = field ∧ s = .name n := by
    refine ⟨.inr he, fun field' n => iff_of_false ?_ fun hname => hs n hname.2⟩
    obtain ⟨fault, rfl, -⟩ := he
    nofun
  cases s with
  | plain found =>
      refine hinvalid nofun ?_
      cases found <;> cases h <;> exact ⟨_, rfl, nofun, nofun⟩
  | object found =>
      refine hinvalid nofun ?_
      cases found <;> cases h <;> exact ⟨_, rfl, nofun, nofun⟩
  | name n =>
      rw [error?, Option.ite_none_left_eq_some] at h
      obtain ⟨-, ⟨⟩⟩ := h
      refine ⟨.inl ⟨n, rfl⟩, fun field' n' => ⟨?_, ?_⟩⟩
      · rintro ⟨⟩
        exact ⟨rfl, rfl⟩
      · rintro ⟨rfl, ⟨⟩⟩
        rfl

/-- Exactly the filters of the grammar are accepted. -/
theorem Filter.exists_ofJson_eq_ok_iff (j : Json) :
    (∃ f, Filter.ofJson j = .ok f) ↔ IsFilter j := by
  cases j with
  | object members =>
      have hfine : IsFilter (.object members) ↔ ∀ m ∈ members, IsPredicate m.2 :=
        ⟨fun ⟨h⟩ => h, .object⟩
      rw [← errorOf_eq_none_iff, errorOf_ofJson, List.findSome?_eq_none_iff, hfine]
      refine forall₂_congr fun m _ => ?_
      rw [List.findSome?_eq_none_iff, isPredicate_iff_fine]
      exact forall₂_congr fun s _ => s.error?_eq_none_iff m.1
  | _ => exact iff_of_false (fun ⟨_, h⟩ => nomatch h) nofun

/-- **Exactly the filters of the grammar are accepted, and of any other object the first defect is
reported.** The error names the field that has it, and is about the name of a comparison exactly
when that is the defect. What stands after the defect makes no difference, be it later in the same
object or list or in other members. No error says that a number is out of range or that an operator
map was expected. -/
theorem ofJson_blames_first_defect (j : Json) :
    ((∃ f, Filter.ofJson j = .ok f) ↔ IsFilter j) ∧
      (∀ members e, j = .object members → Filter.ofJson j = .error e →
        ∃ d : FirstDefect members, ¬ IsPredicate d.value ∧ d.spot.error? d.field = some e ∧
          ((∃ n, e = .unknownOperator d.field n) ∨ ∃ fault, e = .invalidFilter d.field fault) ∧
          (∀ field n, e = .unknownOperator field n ↔ field = d.field ∧ d.spot = .name n) ∧
          ∀ value after, d.earlier ++ [d.spot] <+: Predicate.spots value →
            Filter.ofJson (.object (d.before ++ (d.field, value) :: after)) = .error e) ∧
      ∀ field, Filter.ofJson j ≠ .error (.invalidFilter field .notAnOperatorMap) ∧
        Filter.ofJson j ≠ .error (.invalidFilter field .numberOutOfRange) := by
  refine ⟨Filter.exists_ofJson_eq_ok_iff j, ?_, ?_⟩
  · rintro members e rfl h
    obtain ⟨d, he⟩ := exists_firstDefect h
    obtain ⟨hfield, hname⟩ := Spot.error?_eq_some he
    refine ⟨d, d.not_isPredicate, he, ?_, hname, ?_⟩
    · exact hfield.imp id fun ⟨fault, hfault, _⟩ => ⟨fault, hfault⟩
    · exact fun value after hvalue => d.ofJson_eq_error he hvalue after
  · intro field
    have hfault : ∀ fault, Filter.ofJson j = .error (.invalidFilter field fault) →
        fault ≠ .notAnOperatorMap ∧ fault ≠ .numberOutOfRange := by
      intro fault h
      cases j with
      | object members =>
          obtain ⟨d, he⟩ := exists_firstDefect h
          obtain ⟨⟨n, ⟨⟩⟩ | ⟨_, ⟨⟩, hfault⟩, -⟩ := Spot.error?_eq_some he
          exact hfault
      | _ =>
          cases h
          exact ⟨nofun, nofun⟩
    exact ⟨fun h => (hfault _ h).1 rfl, fun h => (hfault _ h).2 rfl⟩

/-- An unknown name of a comparison is reported, though its operand and what comes later are
defective too. -/
theorem ofJson_blames_first_defect_sample :
    let members : List (String × Json) :=
      [("size", .array [.bool true, .string "XL"]),
        ("price", .array [.object [("gte", .string "1"), ("ge", .null)], .string "x"]),
        ("stock", .array [.string "x", .object []])]
    Filter.ofJson (.object members) = .error (.unknownOperator "price" "ge") ∧
      ¬ IsFilter (.object members) ∧
      ∃ d : FirstDefect members, d.field = "price" ∧ d.spot = .name "ge" := by
  intro members
  have h : Filter.ofJson (.object members) = .error (.unknownOperator "price" "ge") := by rfl
  obtain ⟨haccepted, hrefused, -⟩ := ofJson_blames_first_defect (.object members)
  obtain ⟨d, -, -, -, hname, -⟩ := hrefused members _ rfl h
  obtain ⟨hfield, hspot⟩ := (hname "price" "ge").mp rfl
  refine ⟨h, fun hfilter => ?_, d, hfield.symm, hspot⟩
  obtain ⟨f, hf⟩ := haccepted.mpr hfilter
  rw [h] at hf
  cases hf

end CollectionSearch
