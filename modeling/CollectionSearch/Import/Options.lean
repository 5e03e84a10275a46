import CollectionSearch.Decode.Record

/-!
# Import options

How documents are imported in bulk.

* `ImportAction` : what becomes of documents that are there already.
* `DirtyValues` : what becomes of values that do not have the declared type.
* `ImportOptions` : the options and their JSON form.
-/

namespace CollectionSearch

/-! ## Choices -/

/-- What an import does with a document. -/
inductive ImportAction where
  /-- Create it; fail if it is there. -/
  | create
  /-- Create it or replace the one that is there. -/
  | upsert
  /-- Update the one that is there; fail if there is none. -/
  | update
  /-- Create it or update the one that is there. -/
  | emplace
  deriving DecidableEq

namespace ImportAction

/-- All actions. -/
def all : List ImportAction := [create, upsert, update, emplace]

/-- The name of an action. -/
def name : ImportAction → String
  | create => "create"
  | upsert => "upsert"
  | update => "update"
  | emplace => "emplace"

/-- Reads an action by its name. -/
def decode : Decoder Json ImportAction := decodeWord (all.map fun a => (a.name, a))

@[simp] theorem decode_name (a : ImportAction) : decode (.string a.name) = .ok a := by
  cases a <;> rfl

end ImportAction

/-- What an import does with a value that does not have the declared type. -/
inductive DirtyValues where
  /-- Convert it, or refuse the document. -/
  | coerceOrReject
  /-- Convert it, or leave it out. -/
  | coerceOrDrop
  /-- Leave it out. -/
  | drop
  /-- Refuse the document. -/
  | reject
  deriving DecidableEq

namespace DirtyValues

/-- All choices. -/
def all : List DirtyValues := [coerceOrReject, coerceOrDrop, drop, reject]

/-- The name of a choice. -/
def name : DirtyValues → String
  | coerceOrReject => "coerce_or_reject"
  | coerceOrDrop => "coerce_or_drop"
  | drop => "drop"
  | reject => "reject"

/-- Reads a choice by its name. -/
def decode : Decoder Json DirtyValues := decodeWord (all.map fun d => (d.name, d))

@[simp] theorem decode_name (d : DirtyValues) : decode (.string d.name) = .ok d := by
  cases d <;> rfl

end DirtyValues

/-! ## Options -/

/-- How documents are imported. -/
structure ImportOptions where
  /-- What is done with documents. -/
  action : ImportAction := .upsert
  /-- What is done with values that do not have the declared type. -/
  dirtyValues : DirtyValues := .coerceOrDrop
  /-- Whether the results name the documents. -/
  returnIdentifier : Bool := true
  deriving DecidableEq

namespace ImportOptions

/-- The parts of the options. -/
def record : Record Json ImportOptions :=
  ImportOptions.mk <$> Record.defaulted "action" .upsert ImportAction.decode
    <*> Record.defaulted "dirty_values" .coerceOrDrop DirtyValues.decode
    <*> Record.defaulted "return_id" true decodeBool

/-- Reads options. -/
def decode : Decoder Json ImportOptions := record.decode "ImportOptions"

/-- The JSON form. -/
def toJson (o : ImportOptions) : Json :=
  .object [("action", .string o.action.name), ("dirty_values", .string o.dirtyValues.name),
    ("return_id", .bool o.returnIdentifier)]

/-- Options are read back from their JSON form. -/
@[simp] theorem decode_toJson (o : ImportOptions) : decode o.toJson = .ok o := by
  rcases o with ⟨action, dirty, identifier⟩
  cases action <;> cases dirty <;> rfl

end ImportOptions

end CollectionSearch
