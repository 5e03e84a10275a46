import CollectionSearch.Proofs.Filter.NormalForm
import CollectionSearch.Proofs.Ordered

/-!
# One entry of a filter

The clause of an entry depends on that entry alone. Setting the predicate of a field therefore
changes the clause of that field and leaves the others as they are, where they are.

* `Filter.clausesOf` : the clauses of some entries.
* `Filter.clauseAt` : the clause of a field.

**Main statements:** `clauses_insert` and `clauses_erase` say what an entry is to the clauses,
`expression_union_of_disjoint` what two filters on different fields are to the expression, and
`expression_insert_local` puts them together.
-/

namespace CollectionSearch.Filter

/-- The clauses of some entries, in order. -/
def clausesOf (entries : List (String × Predicate)) : List String :=
  entries.filterMap fun e => e.2.clause? e.1

variable (f : Filter) (k : String) (v : Predicate)

/-- The clause of a field, if there is one. -/
def clauseAt : Option String := (f.get? k).bind fun p => p.clause? k

theorem clauses_eq_clausesOf : f.clauses = clausesOf f.entries := rfl

theorem clausesOf_append (l l' : List (String × Predicate)) :
    clausesOf (l ++ l') = clausesOf l ++ clausesOf l' := List.filterMap_append

theorem clausesOf_cons (e : String × Predicate) (l : List (String × Predicate)) :
    clausesOf (e :: l) = (e.2.clause? e.1).toList ++ clausesOf l := by
  unfold clausesOf
  rw [List.filterMap_cons]
  cases e.2.clause? e.1 <;> rfl

/-! ## One entry -/

/-- The clause of a field stands between those of the fields in front of it and behind it. -/
theorem clauses_eq_around :
    f.clauses = clausesOf (f.before k) ++ (f.clauseAt k).toList ++ clausesOf (f.after k) := by
  have hentry : clausesOf ((f.get? k).map (Prod.mk k)).toList = (f.clauseAt k).toList := by
    rcases hget : f.get? k with _ | p
    · simp [clauseAt, hget, clausesOf]
    · rw [clauseAt, hget, Option.map_some, Option.toList_some, clausesOf_cons]
      exact List.append_nil _
  rw [clauses_eq_clausesOf, f.entries_eq_around k, clausesOf_append, clausesOf_append, hentry]

/-- A predicate that is set changes that clause alone. -/
theorem clauses_insert :
    clauses (f.insert k v) =
      clausesOf (f.before k) ++ (v.clause? k).toList ++ clausesOf (f.after k) := by
  rw [clauses_eq_clausesOf, f.entries_insert_eq_around, clausesOf_append, clausesOf_cons,
    List.append_assoc]

/-- Without the field the other clauses are left. -/
theorem clauses_erase :
    clauses (f.erase k) = clausesOf (f.before k) ++ clausesOf (f.after k) := by
  rw [clauses_eq_clausesOf, f.entries_erase_eq_around, clausesOf_append]

variable {v}

/-- A predicate that says nothing is as good as none. -/
theorem clauses_insert_of_isDropped (h : v.isDropped = true) :
    clauses (f.insert k v) = clauses (f.erase k) := by
  rw [clauses_insert, clauses_erase, (v.clause?_eq_none_iff k).mpr h, Option.toList_none,
    List.append_nil]

/-! ## Several entries -/

/-- A filter has the empty expression when it has no clauses. -/
theorem expression_eq_empty_iff_clauses : f.expression = "" ↔ f.clauses = [] := by
  rw [f.expression_eq_empty_iff_normalForm, f.clauses_eq_map_text, List.map_eq_nil_iff]

variable {f} {g : Filter}

theorem clauses_union_of_disjoint (h : ∀ field ∈ g.keys, field ∉ f.keys) :
    clauses (f.union g) = f.clauses ++ g.clauses := by
  rw [clauses_eq_clausesOf, OrderedMap.entries_union_of_disjoint h, clausesOf_append]
  rfl

/-- Two filters on different fields are joined, unless one of them says nothing. -/
theorem expression_union_of_disjoint (h : ∀ field ∈ g.keys, field ∉ f.keys) :
    expression (f.union g) =
      " && ".intercalate ([f.expression, g.expression].filter fun s => s ≠ "") := by
  have hclauses := clauses_union_of_disjoint h
  by_cases hf : f.clauses = []
  · have hempty : f.expression = "" := f.expression_eq_empty_iff_clauses.mpr hf
    have hunion : expression (f.union g) = g.expression := by
      rw [expression, hclauses, hf, List.nil_append, expression]
    rw [hunion]
    by_cases hg : g.expression = "" <;> simp [hempty, hg]
  · have hne : f.expression ≠ "" := mt f.expression_eq_empty_iff_clauses.mp hf
    by_cases hg : g.clauses = []
    · have hempty : g.expression = "" := g.expression_eq_empty_iff_clauses.mpr hg
      have hunion : expression (f.union g) = f.expression := by
        rw [expression, hclauses, hg, List.append_nil, expression]
      simp [hunion, hempty, hne]
    · have hne' : g.expression ≠ "" := mt g.expression_eq_empty_iff_clauses.mp hg
      have hunion : expression (f.union g) = f.expression ++ " && " ++ g.expression := by
        rw [expression, hclauses, String.intercalate_append_of_ne_nil hf hg, expression, expression]
      simp [hunion, hne, hne']

/-- **A filter is written entry by entry.** The clauses of a filter are those of the fields in front
of a field, its own, and those of the fields behind it. Setting the predicate of the field changes
its own clause alone: in its place, or at the end if the field is new, and to no clause if the
predicate says nothing, which is as if the filter had no such field. A filter on other fields is
written after it, unless one of them says nothing. -/
theorem expression_insert_local (f : Filter) (k : String) (v : Predicate) :
    (f.entries = f.before k ++ ((f.get? k).map (Prod.mk k)).toList ++ f.after k ∧
      (k ∉ f.keys → f.before k = f.entries ∧ f.after k = [])) ∧
    f.clauses = clausesOf (f.before k) ++ (f.clauseAt k).toList ++ clausesOf (f.after k) ∧
    clauses (f.insert k v) =
      clausesOf (f.before k) ++ (v.clause? k).toList ++ clausesOf (f.after k) ∧
    expression (f.insert k v) = " && ".intercalate (clauses (f.insert k v)) ∧
    (v.clause? k = none ↔ v.isDropped = true) ∧
    (v.isDropped = true → expression (f.insert k v) = expression (f.erase k)) ∧
    ∀ g : Filter, (∀ field ∈ g.keys, field ∉ f.keys) →
      expression (f.union g) =
        " && ".intercalate ([f.expression, g.expression].filter fun s => s ≠ "") := by
  refine ⟨⟨f.entries_eq_around k, fun h => ?absent⟩, f.clauses_eq_around k, f.clauses_insert k v,
    rfl, v.clause?_eq_none_iff k, ?dropped, ?joined⟩
  case absent => exact ⟨OrderedMap.before_of_not_mem h, OrderedMap.after_of_not_mem h⟩
  case dropped =>
    intro h
    rw [expression, f.clauses_insert_of_isDropped k h, expression]
  case joined => exact fun g h => expression_union_of_disjoint h

/-- A clause between others is replaced or taken out, and the clauses of other fields follow, less
those of fields of which nothing is said. -/
theorem expression_insert_local_brand :
    let f : Filter :=
      ((empty.eq "name" (.text "shoe")).eq "brand" (.text "acme")).eq "sale" (.bool true)
    let g : Filter := (empty.null "size").eq "colour" (.text "red")
    let brands : Predicate := .anyOf [.text "acme", .text "zeta"]
    expression (f.insert "brand" brands) = "name:=shoe && brand:=[acme,zeta] && sale:=true" ∧
      ("colour" ∉ f.keys ∧ f.before "colour" = f.entries ∧ f.after "colour" = []) ∧
      ((Predicate.anyOf []).isDropped = true ∧
        expression (f.insert "brand" (.anyOf [])) = expression (f.erase "brand") ∧
        expression (f.erase "brand") = "name:=shoe && sale:=true") ∧
      (∀ field ∈ g.keys, field ∉ f.keys) ∧
      expression (f.union g) =
        "name:=shoe && brand:=acme && sale:=true && colour:=red" := by
  intro f g brands
  have hnew : "colour" ∉ f.keys := by decide
  have hempty : (Predicate.anyOf []).isDropped = true := rfl
  have hdisjoint : ∀ field ∈ g.keys, field ∉ f.keys := by decide
  obtain ⟨-, -, -, hset, -, -, hjoined⟩ := expression_insert_local f "brand" brands
  obtain ⟨-, -, -, -, -, hdropped, -⟩ := expression_insert_local f "brand" (.anyOf [])
  obtain ⟨⟨-, habsent⟩, -⟩ := expression_insert_local f "colour" brands
  exact ⟨hset.trans rfl, ⟨hnew, habsent hnew⟩, ⟨hempty, hdropped hempty, rfl⟩, hdisjoint,
    (hjoined g hdisjoint).trans rfl⟩

end CollectionSearch.Filter
