import CollectionSearch.Decode.Record

/-!
# Import results

What became of a document that was imported.

* `ImportResult` : the results and their JSON form.
-/

namespace CollectionSearch

/-- What became of an imported document. -/
structure ImportResult where
  /-- Whether it was imported. -/
  success : Bool
  /-- Its identifier. -/
  identifier : Option String := none
  /-- Why it was refused. -/
  error : Option String := none
  /-- The refused document as it was sent. -/
  document : Option String := none
  deriving DecidableEq

namespace ImportResult

/-- The parts of a result. -/
def record : Record Json ImportResult :=
  ImportResult.mk <$> Record.required "success" decodeBool
    <*> Record.optional "id" decodeString
    <*> Record.optional "error" decodeString
    <*> Record.optional "document" decodeString

/-- Reads a result. -/
def decode : Decoder Json ImportResult := record.decode "ImportResult"

/-- The JSON form. -/
def toJson (r : ImportResult) : Json :=
  .ofPresent [("success", some (.bool r.success)), ("id", r.identifier.map .string),
    ("error", r.error.map .string), ("document", r.document.map .string)]

/-- Results are read back from their JSON form. -/
@[simp] theorem decode_toJson (r : ImportResult) : decode r.toJson = .ok r := by
  rcases r with ⟨success, _ | _, _ | _, _ | _⟩ <;> rfl

end ImportResult

end CollectionSearch
