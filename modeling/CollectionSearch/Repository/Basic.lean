import CollectionSearch.QueryError
import CollectionSearch.Repository.Program

/-!
# Repositories

Access to one collection with documents of one type.

* `DocumentCodec` : how documents are written and read as JSON.
* `RepositoryConfig` : the settings and their JSON form.
* `Repository` : schema, settings and codec.
* `RepositoryError` : why an operation failed; `RepositoryError.message` : the wording.
* `Action` : programs that may fail, the form of all operations.
-/

namespace CollectionSearch

/-! ## Documents and settings -/

/-- How documents of a type are written and read as JSON. -/
structure DocumentCodec (D : Type) where
  /-- Writes a document, or tells why it cannot be written. -/
  encode : D → Except String Json
  /-- Reads a document. -/
  decode : Decoder Json D

/-- Documents that are JSON values themselves. -/
def DocumentCodec.json : DocumentCodec Json := ⟨.ok, decodeJson⟩

/-- How a repository behaves. -/
structure RepositoryConfig where
  /-- How many documents a vector search wants when nothing is said. -/
  neighbours : UInt64 := 10
  /-- How documents are imported. -/
  importOptions : ImportOptions := {}

/-- The parts of the settings. -/
def RepositoryConfig.record : Record Json RepositoryConfig :=
  RepositoryConfig.mk <$> Record.defaulted "default_vector_k" 10 decodeSize
    <*> Record.defaulted "import" {} ImportOptions.decode

/-- Reads settings. -/
def RepositoryConfig.decode : Decoder Json RepositoryConfig :=
  RepositoryConfig.record.decode "RepoConfig"

/-- Access to one collection. -/
structure Repository (D : Type) where
  /-- The schema of the collection. -/
  schema : CollectionSchema
  /-- The settings. -/
  config : RepositoryConfig
  /-- How documents are written and read. -/
  codec : DocumentCodec D

/-- The name of the collection. -/
def Repository.name {D : Type} (r : Repository D) : String := r.schema.name

/-! ## Errors -/

/-- Why an operation failed. -/
inductive RepositoryError where
  /-- The query cannot be sent. -/
  | query (e : QueryError)
  /-- A call failed. -/
  | backend (e : BackendError)
  /-- What the service answered cannot be read. -/
  | undecodable (e : DecodeError)

/-- The wording of an error. -/
def RepositoryError.message : RepositoryError → String
  | query e => e.message
  | backend e => e.message
  | undecodable e => "Failed to decode backend response: " ++ e.message

/-! ## Actions -/

/-- A program that may fail. -/
abbrev Action (α : Type) : Type := ExceptT RepositoryError Program α

namespace Action

variable {α : Type}

/-- Calls the search service; its failure is the failure of the action. -/
def perform (operation : Operation) (c : Call) : Action c.Reply :=
  ExceptT.mk do return (← Program.perform operation c).mapError .backend

/-- Does a stretch of work and takes a sample of its duration, however it ends. -/
def timed (t : Timed) (a : Action α) : Action α := ExceptT.mk (Program.timed t a.run)

/-- A result that is there already, or its error. -/
def ofExcept {ε : Type} (wrap : ε → RepositoryError) (r : Except ε α) : Action α :=
  ExceptT.mk (pure (r.mapError wrap))

/-- Reads what the service answered. -/
def decode (d : Decoder Json α) (j : Json) : Action α := ofExcept .undecodable (d j)

/-- Writes a document. -/
def encode {D : Type} (codec : DocumentCodec D) (document : D) : Action Json :=
  ofExcept (fun reason => .backend (.serialization reason)) (codec.encode document)

end Action

end CollectionSearch
