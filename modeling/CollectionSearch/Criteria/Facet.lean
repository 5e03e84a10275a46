import CollectionSearch.Decode.Record

/-!
# Facet requests

A field whose values are counted, with or without a query that limits the values reported.

* `FacetRequest` : the requests; `FacetRequest.field` and `FacetRequest.facetQuery` : their parts.
* `FacetRequest.decode` : the JSON form, a name or an object.
-/

namespace CollectionSearch

/-- A field whose values are counted. -/
inductive FacetRequest where
  /-- All values are reported. -/
  | all (field : String)
  /-- The values that suit a query are reported, all of them without one. -/
  | limited (field : String) (query : Option String)
  deriving DecidableEq

namespace FacetRequest

/-- The field. -/
def field : FacetRequest → String
  | all f => f
  | limited f _ => f

/-- The query, unless it is missing or empty. -/
def facetQuery : FacetRequest → Option String
  | all _ => none
  | limited _ query => query.filter fun q => !q.isEmpty

/-- The parts of a request in object form. -/
def record : Record Json FacetRequest :=
  FacetRequest.limited <$> Record.required "field" decodeString
    <*> Record.optional "facet_query" decodeString

/-- A string is a field, an object a field with a query. -/
def ofJson? : Json → Option FacetRequest
  | .string f => some (.all f)
  | .object members => (record.decode "FacetRequest" (.object members)).toOption
  | _ => none

/-- Reads a request. -/
def decode {V : Type} [Source V] : Decoder V FacetRequest := fun v => do
  match ofJson? (← (Source.verbatim v).mapError .unreadable) with
  | some r => .ok r
  | none => .error (.noVariant "FacetRequest")

/-- The JSON form. -/
def toJson : FacetRequest → Json
  | all f => .string f
  | limited f query => .ofPresent [("field", some (.string f)), ("facet_query", query.map .string)]

/-- The JSON form is read back. -/
@[simp] theorem ofJson?_toJson (r : FacetRequest) : ofJson? r.toJson = some r := by
  rcases r with f | ⟨f, _ | q⟩ <;> rfl

end FacetRequest

end CollectionSearch
