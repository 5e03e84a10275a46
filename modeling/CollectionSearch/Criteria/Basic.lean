import CollectionSearch.Criteria.Facet
import CollectionSearch.Criteria.QueryBy
import CollectionSearch.Criteria.Sort
import CollectionSearch.Filter.Reading
import CollectionSearch.Params.Basic

/-!
# Search criteria

What a caller wants from a search. Everything is optional: what is left out is chosen from the
schema or left to the search service.

* `FilterSpec` : a filter, written out or structured.
* `SearchCriteria` : the criteria, and `SearchCriteria.decode` : their JSON form.
-/

namespace CollectionSearch

/-! ## Filters -/

/-- A filter. -/
inductive FilterSpec where
  /-- An expression that is sent as it is. -/
  | raw (expression : String)
  /-- A filter whose expression is still to be written. -/
  | structured (filter : Filter)

/-- Reads a filter: a string or an object. -/
def FilterSpec.decode {V : Type} [Source V] : Decoder V FilterSpec := fun v => do
  match ← decodeJson v with
  | .string expression => .ok (.raw expression)
  | .object members => (Filter.decode (Json.object members)).map .structured
  | other => .error (.rejected ("filter must be a string or an object, got " ++ other.compact))

/-! ## Criteria -/

/-- What a caller wants from a search. -/
structure SearchCriteria where
  /-- The text to search for. -/
  q : Option String := none
  /-- The fields that the text is matched against. -/
  queryBy : Option QueryBy := none
  /-- What results are sorted by. -/
  sort : Option SortSpec := none
  /-- The number of the page. -/
  page : Option UInt32 := none
  /-- How many results a page has. -/
  perPage : Option UInt32 := none
  /-- The fields whose values are counted. -/
  facets : List FacetRequest := []
  /-- How many of those values are reported. -/
  maxFacetValues : Option UInt32 := none
  /-- What results must satisfy. -/
  filter : Option FilterSpec := none
  /-- The fields that results show. -/
  included : Option (List String) := none
  /-- The fields that results leave out. -/
  excluded : Option (List String) := none
  /-- The fields that results are grouped by. -/
  groupBy : Option (List String) := none
  /-- How many results a group shows. -/
  groupLimit : Option UInt32 := none
  /-- Whether the last word may be the beginning of a longer one. -/
  prefixSearch : Option Bool := none
  /-- Parameters that are written over all others. -/
  overrides : Option SearchParams := none

namespace SearchCriteria

/-- Criteria that leave everything open. -/
def empty : SearchCriteria := {}

/-- The criteria with one facet request more. -/
def facet (c : SearchCriteria) (r : FacetRequest) : SearchCriteria :=
  { c with facets := c.facets ++ [r] }

variable {V : Type} [Source V]

/-- The parts of the JSON form. -/
def record : Record V SearchCriteria :=
  SearchCriteria.mk <$> Record.optional "q" decodeString
    <*> Record.optional "queryBy" QueryBy.decode
    <*> Record.optional "sort" SortSpec.decode
    <*> Record.optional "page" decodeUInt32
    <*> Record.optional "per_page" decodeUInt32
    <*> Record.defaulted "facets" [] (decodeList FacetRequest.decode)
    <*> Record.optional "maxFacetValues" decodeUInt32
    <*> Record.optional "filter" FilterSpec.decode
    <*> Record.optional "include" (decodeList decodeString)
    <*> Record.optional "exclude" (decodeList decodeString)
    <*> Record.optional "groupBy" (decodeList decodeString)
    <*> Record.optional "groupLimit" decodeUInt32
    <*> Record.optional "prefix" decodeBool
    <*> Record.optional "_searchParams" SearchParams.decode

/-- Reads criteria. -/
def decode : Decoder V SearchCriteria := record.decode "SearchCriteria"

end SearchCriteria

end CollectionSearch
