import CollectionSearch.Criteria.Assembly
import CollectionSearch.Repository.Collections
import CollectionSearch.Response.Basic
import CollectionSearch.VectorQuery

/-!
# Searches

Searches by criteria and by vector.

* `Repository.search` : checks the criteria before anything is sent.
* `VectorSearch`, `Repository.vectorSearch` : a search by vector, sent as the only one of a
  request for several, so that the vector stands in the body. A failure of such a search is
  reported inside its answer.
-/

namespace CollectionSearch

/-- What a caller wants from a search by vector. -/
structure VectorSearch where
  /-- The field that holds the vectors. -/
  field : String
  /-- The components of the vector. -/
  vector : List Single
  /-- How many documents are wanted. -/
  k : Option UInt64 := none
  /-- The fields that results show. -/
  included : Option (List String) := none

/-- The answer to a search and its facets by field. -/
structure SearchResult (D : Type) where
  /-- The answer. -/
  response : SearchResponse D
  /-- The facets by field. -/
  facets : Facets

namespace Repository

variable {D : Type} (r : Repository D)

/-- Takes the samples of a search that succeeded. -/
def sampleSearch (kind : SearchKind) (response : SearchResponse D) : Program Unit := do
  Program.sample (.searchResults response.hits.length)
  Program.sample (.searchSeconds kind)

/-- Searches by criteria. -/
def search (c : SearchCriteria) : Action (SearchResult D) := do
  Action.ofExcept .query (c.check r.schema)
  let _ ← r.ensure
  Program.signals (c.assemblySignals r.schema)
  Program.event (.searching r.name)
  let answer ← Action.timed .search
    (Action.perform .search (.search r.name (c.toParams r.schema)))
  let response ← Action.decode (SearchResponse.decode r.codec.decode) answer
  sampleSearch .text response
  return ⟨response, response.facets⟩

/-- The query of a search by vector. -/
def vectorQuery (s : VectorSearch) : VectorQuery :=
  ⟨s.field, s.vector, s.k.getD r.config.neighbours⟩

/-- The known parameters of a search by vector. -/
def vectorParams (s : VectorSearch) : KnownParams
  | .q => some matchAll
  | .queryBy => some ""
  | .vectorQuery => some (r.vectorQuery s).text
  | .includeFields => s.included.map fun names => ",".intercalate names
  | _ => none

/-- The only request of a search by vector. -/
def vectorRequest (s : VectorSearch) : MultiSearchRequest :=
  { collection := r.name, params := { known := r.vectorParams s } }

/-- The failure that an answer reports, if it does. -/
def embeddedError (answer : Json) : Option String := (answer.get? "error").bind Json.string?

/-- The first of several answers, unless there is none or it reports a failure. -/
def firstAnswer : List Json → Except BackendError Json
  | [] => .error (.refused "multi_search returned no results")
  | answer :: _ =>
    match embeddedError answer with
    | some reason => .error (.refused reason)
    | none => .ok answer

/-- Searches by vector. -/
def vectorSearch (s : VectorSearch) : Action (SearchResponse D) := do
  let query := r.vectorQuery s
  Action.ofExcept .query (query.check r.schema)
  Program.event (.vectorSearch r.name query.field query.vector.length query.k.toNat)
  let answers ← Action.timed .multiSearch
    (Action.perform .multiSearch (.multiSearch [r.vectorRequest s]))
  let answer ← Action.ofExcept .backend (firstAnswer answers)
  let response ← Action.decode (SearchResponse.decode r.codec.decode) answer
  sampleSearch .vector response
  return response

end Repository

end CollectionSearch
