import CollectionSearch.Repository.Basic

/-!
# The collection as a whole

The collection is created before its first use and can be dropped; documents are imported in
bulk.

* `Repository.ensure` : creates the collection unless it is there. That this may fail does not
  stop the operation that needs it.
* `Repository.dropCollection` : deletes the collection if it is there.
* `Repository.importDocuments` : imports documents, all of them or, if one cannot be written,
  none.
-/

namespace CollectionSearch.Repository

variable {D : Type} (r : Repository D)

/-- Creates the collection unless it is there. -/
def create? : Program (Except BackendError Unit) := do
  match ← Program.perform .collectionExists (.collectionExists r.name) with
  | .error e => return .error e
  | .ok true => return .ok ()
  | .ok false =>
    let declaration := r.schema.toDeclaration
    Program.event (.creatingCollection r.name declaration.fields.length)
    match ← Program.perform .createCollection (.createCollection declaration) with
    | .error e => return .error e
    | .ok () =>
      Program.sample (.collectionOperation .create true)
      Program.event (.collectionCreated r.name)
      return .ok ()

/-- Creates the collection unless it is there, and says whether it is there now for all that is
known. -/
def ensure : Program Bool := do
  match ← r.create? with
  | .ok () =>
    Program.sample (.collectionOperation .ensure true)
    return true
  | .error e =>
    Program.sample (.collectionOperation .ensure false)
    Program.event (.ensureFailed r.name e.message)
    return false

/-- Deletes the collection if it is there, and says whether it was. -/
def dropCollection : Action Bool := do
  let present : Bool ← Action.perform .collectionExists (.collectionExists r.name)
  if present then
    Action.perform .deleteCollection (.deleteCollection r.name)
    Program.sample (.collectionOperation .drop true)
    Program.event (.collectionDropped r.name)
    return true
  else
    Program.event (.collectionAbsent r.name)
    return false

/-- What is reported of the results of an import. -/
def importEvent (results : List ImportResult) : Event :=
  let failed := results.countP fun result => !result.success
  if 0 < failed then .importRejected r.name failed results.length
  else .imported r.name results.length

/-- Imports documents. -/
def importDocuments (documents : List D) : Action (List ImportResult) := do
  let _ ← r.ensure
  let bodies ← documents.mapM (Action.encode r.codec)
  Action.timed .importDocuments do
    let results ← Action.perform .importDocuments
      (.importDocuments r.name bodies r.config.importOptions)
    Program.event (r.importEvent results)
    return results

end CollectionSearch.Repository
