import CollectionSearch.Criteria.Capability
import CollectionSearch.Filter.Signals

/-!
# The parameters of criteria

Criteria and a schema give the parameters of a search. What the criteria leave open is left out,
except the text, which becomes the one that everything matches, and the fields to match it
against, which become all fields of the schema that allow it. Overrides are written over the
result.

* `SearchCriteria.assembled` : the parameters without the overrides.
* `SearchCriteria.toParams` : the parameters.
* `SearchCriteria.assemblySignals` : what is reported on the way.
-/

namespace CollectionSearch

/-- The text that every document matches. -/
def matchAll : String := "*"

/-- A text, unless it is empty. -/
def nonEmpty (s : String) : Option String := if s.isEmpty then none else some s

/-- Names as they are sent, unless there is none. -/
def joinNames (names : List String) : Option String :=
  if names.isEmpty then none else some (",".intercalate names)

namespace SearchCriteria

/-- The text to search for. -/
def searchText (c : SearchCriteria) : String := (c.q.bind nonEmpty).getD matchAll

/-- The fields that the text is matched against: those asked for, else all that allow it. -/
def queryByParam (c : SearchCriteria) (s : CollectionSchema) : String :=
  match c.queryBy with
  | some q => q.fieldsParam
  | none => ",".intercalate s.searchable

/-- The weights, when fields were asked for. -/
def weightsParam (c : SearchCriteria) : Option String :=
  c.queryBy.bind fun q => if q.isEmpty then none else some q.weightsParam

/-- The fields whose values are counted. -/
def facetByParam (c : SearchCriteria) : Option String :=
  joinNames ((c.facets.map FacetRequest.field).filter fun f => !f.isEmpty)

/-- The queries of the facet requests. -/
def facetQueries (c : SearchCriteria) : List String := c.facets.filterMap FacetRequest.facetQuery

/-- The expression of the filter, unless it says nothing. -/
def filterParam (c : SearchCriteria) : Option String :=
  match c.filter with
  | some (.raw expression) => nonEmpty expression
  | some (.structured f) => nonEmpty f.expression
  | none => none

/-- The fields that results are grouped by. -/
def groupByParam (c : SearchCriteria) : Option String := c.groupBy.bind joinNames

/-- What the criteria and the schema say of each known parameter. Parameters about facets and
groups are sent only along with the fields they are about. -/
def knownParams (c : SearchCriteria) (s : CollectionSchema) : KnownParams
  | .q => some c.searchText
  | .queryBy => some (c.queryByParam s)
  | .queryByWeights => c.weightsParam
  | .sortBy => c.sort.bind SortSpec.toParam
  | .facetBy => c.facetByParam
  | .facetQuery => c.facetByParam.bind fun _ => c.facetQueries.head?
  | .maxFacetValues => c.facetByParam.bind fun _ => c.maxFacetValues
  | .filterBy => c.filterParam
  | .includeFields => c.included.bind joinNames
  | .excludeFields => c.excluded.bind joinNames
  | .groupBy => c.groupByParam
  | .groupLimit => c.groupByParam.bind fun _ => c.groupLimit
  | .page => c.page
  | .perPage => c.perPage
  | .prefixSearch => c.prefixSearch
  | .vectorQuery => none

/-- The parameters before the overrides. -/
def assembled (c : SearchCriteria) (s : CollectionSchema) : SearchParams :=
  { known := c.knownParams s }

/-- The parameters of a search. -/
def toParams (c : SearchCriteria) (s : CollectionSchema) : SearchParams :=
  match c.overrides with
  | some overrides => (c.assembled s).merge overrides
  | none => c.assembled s

/-! ## Signals -/

/-- The facet queries that are not sent, since a search has one at most. -/
def ignoredFacetQueries (c : SearchCriteria) : List String :=
  if c.facetByParam.isSome then c.facetQueries.tail else []

/-- What is reported when the parameters are put together. -/
def assemblySignals (c : SearchCriteria) (s : CollectionSchema) : List Signal :=
  c.ignoredFacetQueries.map (fun query => .event (.ignoredFacetQuery s.name query)) ++
    match c.filter with
    | some (.structured f) => f.compileSignalsFor s
    | _ => []

/-! ## Lemmas -/

@[simp] theorem extra_assembled (c : SearchCriteria) (s : CollectionSchema) :
    (c.assembled s).extra = OrderedMap.empty := rfl

theorem toParams_of_none {c : SearchCriteria} (s : CollectionSchema) (h : c.overrides = none) :
    c.toParams s = c.assembled s := by
  simp only [toParams, h]

theorem toParams_of_some {c : SearchCriteria} {o : SearchParams} (s : CollectionSchema)
    (h : c.overrides = some o) : c.toParams s = (c.assembled s).merge o := by
  simp only [toParams, h]

end SearchCriteria

end CollectionSearch
