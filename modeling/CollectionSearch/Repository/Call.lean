import CollectionSearch.Import.Options
import CollectionSearch.Import.Result
import CollectionSearch.Params.Basic
import CollectionSearch.Schema.Declaration
import CollectionSearch.Signal

/-!
# Calls to the search service

What the search service can be asked to do, and how it may fail.

* `Call` : the calls; `Call.Reply` : what a call answers; `Call.operation` : its operation.
* `BackendError` : the failures; `BackendError.message` : their wording.
* `CallStatus.of` : how a reply counts.
-/

namespace CollectionSearch

/-! ## Failures -/

/-- Why a call failed. -/
inductive BackendError where
  /-- What was asked for does not exist. -/
  | notFound
  /-- The service was not reached. -/
  | connection (reason : String)
  /-- The service refused. -/
  | refused (reason : String)
  /-- A value could not be written or read as JSON. -/
  | serialization (reason : String)
  deriving DecidableEq

/-- The wording of a failure. -/
def BackendError.message : BackendError → String
  | notFound => "Not found"
  | connection reason => "Connection error: " ++ reason
  | refused reason => "Typesense error: " ++ reason
  | serialization reason => "Serialization error: " ++ reason

/-! ## Calls -/

/-- A call to the search service. -/
inductive Call where
  /-- Is there a collection of this name? -/
  | collectionExists (name : String)
  /-- Create a collection. -/
  | createCollection (declaration : CollectionDeclaration)
  /-- Delete a collection with its documents. -/
  | deleteCollection (name : String)
  /-- Search a collection. -/
  | search (collection : String) (params : SearchParams)
  /-- Search several times; one answer for each request. -/
  | multiSearch (requests : List MultiSearchRequest)
  /-- Import documents; one result for each. -/
  | importDocuments (collection : String) (documents : List Json) (options : ImportOptions)
  /-- Fetch a document. -/
  | retrieve (collection identifier : String)
  /-- Create a document under the identifier it has. -/
  | create (collection : String) (document : Json)
  /-- Replace the document of an identifier. -/
  | update (collection identifier : String) (document : Json)
  /-- Delete a document; the answer is what was deleted. -/
  | delete (collection identifier : String)
  /-- Delete what a filter expression describes; the answer is how many there were. -/
  | deleteByFilter (collection expression : String)

namespace Call

/-- What a call answers. -/
@[reducible] def Reply : Call → Type
  | collectionExists _ => Bool
  | createCollection _ => Unit
  | deleteCollection _ => Unit
  | search _ _ => Json
  | multiSearch _ => List Json
  | importDocuments _ _ _ => List ImportResult
  | retrieve _ _ => Json
  | create _ _ => Json
  | update _ _ _ => Json
  | delete _ _ => Json
  | deleteByFilter _ _ => UInt64

/-- The answer of a call or its failure. -/
abbrev Outcome (c : Call) : Type := Except BackendError c.Reply

/-- The operation that a call is for. -/
def operation : Call → Operation
  | collectionExists _ => .collectionExists
  | createCollection _ => .createCollection
  | deleteCollection _ => .deleteCollection
  | search _ _ => .search
  | multiSearch _ => .multiSearch
  | importDocuments _ _ _ => .importDocuments
  | retrieve _ _ => .retrieve
  | create _ _ => .create
  | update _ _ _ => .update
  | delete _ _ => .delete
  | deleteByFilter _ _ => .deleteByFilter

end Call

/-- How an outcome counts. -/
def CallStatus.of {α : Type} : Except BackendError α → CallStatus
  | .ok _ => .success
  | .error .notFound => .notFound
  | .error _ => .error

end CollectionSearch
