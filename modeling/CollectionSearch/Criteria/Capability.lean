import CollectionSearch.Criteria.Basic
import CollectionSearch.Schema.Collection

/-!
# Capabilities that a search needs

Criteria name fields to match text against, to sort by, to count and to group by. Each such field
must be able to do so, if the schema declares it.

* `SearchCriteria.queryFields`, `sortFields`, `facetFields` : the names by what they are needed for.
* `SearchCriteria.check` : the first declared field that cannot do what is asked of it.

**Main statements:** `checkNames_eq_ok_iff` says when a list of names passes.
-/

namespace CollectionSearch

namespace SearchCriteria

/-- Checks that every name of a list that the schema declares is among those with a capability;
the first that is not is reported. -/
def checkNames (s : CollectionSchema) (able : List String) (refusal : String → QueryError) :
    List String → Except QueryError Unit
  | [] => .ok ()
  | name :: rest =>
    if s.declares name ∧ name ∉ able then .error (refusal name)
    else checkNames s able refusal rest

/-- The fields that free text is to be matched against. -/
def queryFields (c : SearchCriteria) : List String := (c.queryBy.map OrderedMap.keys).getD []

/-- The fields that results are to be sorted by. -/
def sortFields (c : SearchCriteria) : List String := (c.sort.map SortSpec.fields).getD []

/-- The fields whose values are to be counted or to make groups. -/
def facetFields (c : SearchCriteria) : List String :=
  c.facets.map FacetRequest.field ++ c.groupBy.getD []

/-- Checks that the declared fields allow the search. Fields that are not declared are typed by
the search service and cannot be judged here. -/
def check (c : SearchCriteria) (s : CollectionSchema) : Except QueryError Unit := do
  checkNames s s.searchable .notSearchable c.queryFields
  checkNames s s.sortable .notSortable c.sortFields
  checkNames s s.facetable .notFacetable c.facetFields

/-- Names pass exactly when each is undeclared or able. -/
theorem checkNames_eq_ok_iff (s : CollectionSchema) (able : List String)
    (refusal : String → QueryError) (names : List String) :
    checkNames s able refusal names = .ok () ↔
      ∀ name ∈ names, s.declares name = false ∨ name ∈ able := by
  induction names with
  | nil => simp [checkNames]
  | cons name rest ih =>
      by_cases hd : s.declares name <;> by_cases ha : name ∈ able <;>
        simp [checkNames, hd, ha, ih]

end SearchCriteria

end CollectionSearch
