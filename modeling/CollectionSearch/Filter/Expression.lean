import CollectionSearch.Filter.Basic

/-!
# Filter expressions

The text of a filter as the search service reads it:

```text
field:=value      field:=[a,b]      field:>=100
a && b            a || b            (a && b)
```

A clause is written for every field of which something is said, in order, and the clauses are
joined by `&&`. Several comparisons of one field stand in parentheses, and so do alternatives.
Values are written as they are, without quoting.

* `FilterScalar.render`, `Operand.render`, `OperatorMap.atoms` : the parts.
* `Predicate.clause?` : the clause of a field, if it has one.
* `Filter.clauses`, `Filter.expression` : the clauses and the text.

**Main statements:** `Predicate.clause?_eq_none_iff` says that exactly the dropped predicates have
no clause.
-/

namespace CollectionSearch

/-! ## Parts -/

/-- The text of a value. -/
def FilterScalar.render : FilterScalar → String
  | text s => s
  | int n => toString n.toInt
  | float x => x.plainText
  | bool b => if b then "true" else "false"

/-- The text of a list of values. -/
def FilterScalar.renderList (values : List FilterScalar) : String :=
  "[" ++ ",".intercalate (values.map render) ++ "]"

/-- The text of what a comparison compares with. -/
def Operand.render : Operand → String
  | one value => value.render
  | many values => FilterScalar.renderList values

/-- The comparisons of a map as atoms of the expression. -/
def OperatorMap.atoms (field : String) (map : OperatorMap) : List String :=
  map.entries.map fun e => field ++ e.1.token ++ e.2.render

/-! ## Clauses -/

/-- What must hold together: one atom bare, several in parentheses. -/
def conjunction : List String → String
  | [atom] => atom
  | atoms => "(" ++ " && ".intercalate atoms ++ ")"

/-- The groups of alternatives that have an atom. -/
def OperatorMap.groups (field : String) (maps : List OperatorMap) : List (List String) :=
  (maps.map (OperatorMap.atoms field)).filter fun atoms => !atoms.isEmpty

/-- The clause of a field, if something is said of it. -/
def Predicate.clause? (field : String) : Predicate → Option String
  | null => none
  | scalar value => some (field ++ ":=" ++ value.render)
  | anyOf values =>
    if values.isEmpty then none else some (field ++ ":=" ++ FilterScalar.renderList values)
  | ops map =>
    let atoms := OperatorMap.atoms field map
    if atoms.isEmpty then none else some (conjunction atoms)
  | anyOps maps =>
    let groups := OperatorMap.groups field maps
    if groups.isEmpty then none
    else some ("(" ++ " || ".intercalate (groups.map conjunction) ++ ")")

/-- The clauses of a filter, in order. -/
def Filter.clauses (f : Filter) : List String :=
  f.entries.filterMap fun e => e.2.clause? e.1

/-- The text of a filter; empty if it says nothing. -/
def Filter.expression (f : Filter) : String := " && ".intercalate f.clauses

/-! ## Lemmas -/

/-- A map has no atoms exactly when it has no comparisons. -/
theorem OperatorMap.atoms_isEmpty (field : String) (map : OperatorMap) :
    (OperatorMap.atoms field map).isEmpty = map.isEmpty := by
  simp [OperatorMap.atoms, OrderedMap.isEmpty]

/-- No group is left exactly when no map has comparisons. -/
theorem OperatorMap.groups_isEmpty (field : String) (maps : List OperatorMap) :
    (OperatorMap.groups field maps).isEmpty = maps.all OrderedMap.isEmpty := by
  induction maps with
  | nil => rfl
  | cons map rest ih =>
      rw [List.all_cons, ← ih, ← OperatorMap.atoms_isEmpty field map]
      unfold OperatorMap.groups
      rw [List.map_cons, List.filter_cons]
      cases (OperatorMap.atoms field map).isEmpty <;> simp

/-- A predicate has no clause exactly when it says nothing. -/
theorem Predicate.clause?_eq_none_iff (field : String) (p : Predicate) :
    p.clause? field = none ↔ p.isDropped = true := by
  cases p with
  | null => simp [clause?, isDropped]
  | scalar value => simp [clause?, isDropped]
  | anyOf values => cases h : values.isEmpty <;> simp [clause?, isDropped, h]
  | ops map =>
      cases h : map.isEmpty <;> simp [clause?, isDropped, h, OperatorMap.atoms_isEmpty]
  | anyOps maps =>
      cases h : maps.all OrderedMap.isEmpty <;>
        simp only [clause?, isDropped, h, OperatorMap.groups_isEmpty] <;> simp

end CollectionSearch
