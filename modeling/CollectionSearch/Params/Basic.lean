import CollectionSearch.Decode.Record

/-!
# Search parameters

The parameters of a search request. Sixteen of them are known here, each with a type of its own;
every other parameter is free and carries any JSON value. A known parameter that is not set is
not sent.

* `SearchParam` : the known parameters, with `SearchParam.name` and `SearchParam.Value`.
* `SearchParams` : the parameters that are set.
* `SearchParams.members`, `SearchParams.toJson`, `SearchParams.decode` : the JSON form.
* `SearchParams.merge` : one set of parameters written over another.
* `SearchParams.toQueryPairs` : the parameters as names and texts.

A free parameter with the name of a known one takes the place of the known one in the JSON form.
-/

namespace CollectionSearch

/-! ## The known parameters -/

/-- The types of known parameters. -/
inductive ParamKind where
  | text
  | count
  | flag
  deriving DecidableEq

/-- The values of a type of parameter. -/
def ParamKind.Value : ParamKind → Type
  | text => String
  | count => UInt32
  | flag => Bool

/-- The JSON form of a value. -/
def ParamKind.toJson : (k : ParamKind) → k.Value → Json
  | text => Json.string
  | count => Json.ofUInt32
  | flag => Json.bool

/-- Reads a value. -/
def ParamKind.decode {V : Type} [Source V] : (k : ParamKind) → Decoder V k.Value
  | text => decodeString
  | count => decodeUInt32
  | flag => decodeBool

/-- A known search parameter. -/
inductive SearchParam where
  /-- The text to search for. -/
  | q
  /-- The fields that the text is matched against. -/
  | queryBy
  /-- Their weights. -/
  | queryByWeights
  /-- What results are sorted by. -/
  | sortBy
  /-- The fields whose values are counted. -/
  | facetBy
  /-- Which of those values are reported. -/
  | facetQuery
  /-- How many of those values are reported. -/
  | maxFacetValues
  /-- What results must satisfy. -/
  | filterBy
  /-- The fields that results show. -/
  | includeFields
  /-- The fields that results leave out. -/
  | excludeFields
  /-- The fields that results are grouped by. -/
  | groupBy
  /-- How many results a group shows. -/
  | groupLimit
  /-- The number of the page. -/
  | page
  /-- How many results a page has. -/
  | perPage
  /-- Whether the last word may be the beginning of a longer one. -/
  | prefixSearch
  /-- The vector that results are near to. -/
  | vectorQuery
  deriving DecidableEq

namespace SearchParam

/-- All known parameters in the order in which they are sent. -/
def all : List SearchParam :=
  [q, queryBy, queryByWeights, sortBy, facetBy, facetQuery, maxFacetValues, filterBy,
    includeFields, excludeFields, groupBy, groupLimit, page, perPage, prefixSearch, vectorQuery]

/-- The name of a parameter. -/
def name : SearchParam → String
  | q => "q"
  | queryBy => "query_by"
  | queryByWeights => "query_by_weights"
  | sortBy => "sort_by"
  | facetBy => "facet_by"
  | facetQuery => "facet_query"
  | maxFacetValues => "max_facet_values"
  | filterBy => "filter_by"
  | includeFields => "include_fields"
  | excludeFields => "exclude_fields"
  | groupBy => "group_by"
  | groupLimit => "group_limit"
  | page => "page"
  | perPage => "per_page"
  | prefixSearch => "prefix"
  | vectorQuery => "vector_query"

/-- The type of a parameter. -/
def kind : SearchParam → ParamKind
  | maxFacetValues | groupLimit | page | perPage => .count
  | prefixSearch => .flag
  | _ => .text

/-- The values of a parameter. -/
abbrev Value (p : SearchParam) : Type := p.kind.Value

theorem mem_all (p : SearchParam) : p ∈ all := by
  cases p <;> decide

theorem nodup_all : all.Nodup := by decide

theorem name_injective {p p' : SearchParam} (h : p.name = p'.name) : p = p' := by
  revert h
  cases p <;> cases p' <;> decide

end SearchParam

/-! ## Parameters that are set -/

/-- The value of each known parameter, if it is set. -/
abbrev KnownParams : Type := (p : SearchParam) → Option p.Value

namespace KnownParams

/-- No known parameter is set. -/
def empty : KnownParams := fun _ => none

/-- The parameters with the value of one of them replaced. -/
def write (known : KnownParams) (p : SearchParam) (v : Option p.Value) : KnownParams :=
  fun p' => if h : p = p' then h ▸ v else known p'

/-- A parameter as a member of an object, if it is set. -/
def member? (known : KnownParams) (p : SearchParam) : Option (String × Json) :=
  (known p).map fun v => (p.name, p.kind.toJson v)

/-- The members for the parameters that are set, in order. -/
def members (known : KnownParams) : List (String × Json) :=
  SearchParam.all.filterMap known.member?

/-- The parts of an object for some of the parameters. -/
def recordOf {V : Type} [Source V] : List SearchParam → Record V KnownParams
  | [] => pure empty
  | p :: rest =>
    (fun v known => write known p v) <$> Record.optional p.name p.kind.decode <*> recordOf rest

end KnownParams

/-- The parameters of a search that are set. -/
structure SearchParams where
  /-- The known parameters. -/
  known : KnownParams := KnownParams.empty
  /-- The free parameters by name. -/
  extra : OrderedMap String Json := OrderedMap.empty

namespace SearchParams

/-- No parameter is set. -/
def empty : SearchParams := {}

/-- Parameters written over others: what is set in the second counts. -/
def merge (a b : SearchParams) : SearchParams where
  known p := (b.known p).or (a.known p)
  extra := a.extra.union b.extra

/-- The members of the JSON form: the known parameters in order, then the free ones. -/
def members (params : SearchParams) : List (String × Json) :=
  Json.overlay params.known.members params.extra.entries

/-- The JSON form. -/
def toJson (params : SearchParams) : Json := .object params.members

/-- Reads parameters from an object; members without a known name are free parameters. -/
def decode {V : Type} [Source V] : Decoder V SearchParams := fun v => do
  let (known, extra) ← (KnownParams.recordOf SearchParam.all).decodeOpen "SearchParams" v
  return { known, extra }

/-- A value as the text of a query string: strings as they are, everything else as JSON. -/
def queryText : Json → String
  | .string s => s
  | j => j.compact

/-- The parameters as names and texts for a query string. -/
def toQueryPairs (params : SearchParams) : List (String × String) :=
  params.members.map fun m => (m.1, queryText m.2)

/-! ## Lemmas -/

@[simp] theorem known_merge (a b : SearchParams) (p : SearchParam) :
    (a.merge b).known p = (b.known p).or (a.known p) := rfl

@[simp] theorem extra_merge (a b : SearchParams) : (a.merge b).extra = a.extra.union b.extra := rfl

end SearchParams

@[simp] theorem KnownParams.write_self (known : KnownParams) (p : SearchParam)
    (v : Option p.Value) : known.write p v p = v := by
  simp [write]

theorem KnownParams.write_of_ne (known : KnownParams) {p p' : SearchParam} (v : Option p.Value)
    (h : p ≠ p') : known.write p v p' = known p' := by
  simp [write, h]

/-! ## Several searches in one request -/

/-- One search of a request for several searches. -/
structure MultiSearchRequest where
  /-- The name of the collection. -/
  collection : String
  /-- The parameters. -/
  params : SearchParams

/-- The JSON form: the collection, then the parameters. -/
def MultiSearchRequest.toJson (r : MultiSearchRequest) : Json :=
  .object (Json.overlay [("collection", .string r.collection)] r.params.members)

end CollectionSearch
