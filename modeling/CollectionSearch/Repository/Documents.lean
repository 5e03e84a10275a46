import CollectionSearch.Filter.Signals
import CollectionSearch.Repository.Collections

/-!
# Documents

Single documents by identifier, and the deletion of all that a filter describes.

* `Repository.get` : a document. Whatever keeps it from being fetched counts as absence; only a
  document that cannot be read is an error.
* `Repository.delete`, `Repository.update` : look first whether the document is there.
* `Repository.deleteWhere` : a filter that says nothing deletes nothing.
-/

namespace CollectionSearch.Repository

variable {D : Type} (r : Repository D)

/-- Fetches a document. -/
def get (identifier : String) : Action (Option D) := do
  let _ ← r.ensure
  match ← Program.perform .retrieve (.retrieve r.name identifier) with
  | .ok body => return some (← Action.decode r.codec.decode body)
  | .error .notFound => return none
  | .error e =>
    Program.event (.lookupFailed r.name identifier e.message)
    return none

/-- Deletes a document and returns it, unless there is none. -/
def delete (identifier : String) : Action (Option D) := do
  match ← r.get identifier with
  | none =>
    Program.event (.nothingToDelete r.name identifier)
    return none
  | some _ =>
    Action.timed .delete do
      let body ← Action.perform .delete (.delete r.name identifier)
      return some (← Action.decode r.codec.decode body)

/-- Writes a body under an identifier that is known to be there or not. -/
def write (identifier : String) (present : Bool) (body : Json) : Action Json := do
  if present then Action.perform .update (.update r.name identifier body)
  else
    Program.event (.creatingDocument r.name identifier)
    Action.perform .create (.create r.name body)

/-- Replaces a document, or creates it if there is none. -/
def update (identifier : String) (document : D) : Action D := do
  let existing ← r.get identifier
  let body ← Action.encode r.codec document
  Action.timed .upsert do
    Action.decode r.codec.decode (← r.write identifier existing.isSome body)

/-- Deletes the documents that a filter describes and returns how many there were, unless the
filter says nothing. -/
def deleteWhere (f : Filter) : Action (Option UInt64) := do
  Program.signals (f.compileSignalsFor r.schema)
  if f.expression.isEmpty then
    Program.event (.emptyDeletion r.name)
    return none
  else
    let _ ← r.ensure
    Action.timed .deleteByFilter do
      let count ← Action.perform .deleteByFilter (.deleteByFilter r.name f.expression)
      Program.event (.deleted r.name f.expression count.toNat)
      return some count

end CollectionSearch.Repository
