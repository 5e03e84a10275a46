import CollectionSearch.Schema.Collection

/-!
# Declarations

What the search service is told when a collection is created: the catch-all declaration first,
then every field with its optionality spelled out, and the characters that part words.

* `FieldDeclaration`, `CollectionDeclaration` : the declarations and their JSON forms.
* `CollectionSchema.fieldDeclarations`, `CollectionSchema.toDeclaration` : those of a schema.
-/

namespace CollectionSearch

/-! ## Fields -/

/-- A field as it is declared to the search service. -/
structure FieldDeclaration where
  /-- The name of the field. -/
  name : String
  /-- Its description. -/
  field : Field

namespace FieldDeclaration

/-- The catch-all: every other field is typed by its values, indexed, and neither counted nor
sorted by. -/
def wildcard : FieldDeclaration :=
  ⟨wildcardName, { type := .auto, index := some true, facet := some false, sort := some false }⟩

/-- The declaration of a field, with its optionality spelled out. -/
def ofField (name : String) (f : Field) : FieldDeclaration :=
  ⟨name, { f with optional := some f.isOptional }⟩

/-- The declaration as JSON. -/
def toJson (d : FieldDeclaration) : Json :=
  .ofPresent (("name", some (.string d.name)) :: d.field.members)

/-- The parts of a declaration. -/
def record : Record Json FieldDeclaration :=
  FieldDeclaration.mk <$> Record.required "name" decodeString <*> Field.record

/-- Reads a declaration. -/
def decode : Decoder Json FieldDeclaration := record.decode "FieldDeclaration"

end FieldDeclaration

/-! ## Collections -/

/-- The characters that part words unless a schema says otherwise. -/
def usualSeparators : List String := ["@", "-", ".", ",", ";", ":", "_", "/", "|", "(", ")"]

/-- A collection as it is declared to the search service. -/
structure CollectionDeclaration where
  /-- The name of the collection. -/
  name : String
  /-- The declarations of the fields. -/
  fields : List FieldDeclaration
  /-- The characters that part words. -/
  separators : List String
  /-- The field that results are sorted by when nothing else is said. -/
  sortingField : Option String

namespace CollectionDeclaration

/-- The declaration as JSON. -/
def toJson (d : CollectionDeclaration) : Json :=
  .ofPresent [("name", some (.string d.name)),
    ("fields", some (.array (d.fields.map FieldDeclaration.toJson))),
    ("token_separators", some (.ofStrings d.separators)),
    ("default_sorting_field", d.sortingField.map .string)]

/-- The parts of a declaration. -/
def record : Record Json CollectionDeclaration :=
  CollectionDeclaration.mk <$> Record.required "name" decodeString
    <*> Record.required "fields" (decodeList FieldDeclaration.decode)
    <*> Record.required "token_separators" (decodeList decodeString)
    <*> Record.optional "default_sorting_field" decodeString

/-- Reads a declaration. -/
def decode : Decoder Json CollectionDeclaration := record.decode "CollectionDeclaration"

end CollectionDeclaration

namespace CollectionSchema

/-- The declarations of the fields of a schema, the catch-all first. -/
def fieldDeclarations (s : CollectionSchema) : List FieldDeclaration :=
  .wildcard :: s.fields.entries.map fun e => .ofField e.1 e.2

/-- The declaration of a schema. -/
def toDeclaration (s : CollectionSchema) : CollectionDeclaration where
  name := s.name
  fields := s.fieldDeclarations
  separators := s.separators.getD usualSeparators
  sortingField := s.sortingField

/-- There is one declaration more than there are fields. -/
theorem length_fieldDeclarations (s : CollectionSchema) :
    s.fieldDeclarations.length = s.fields.size + 1 := by
  simp [fieldDeclarations, OrderedMap.size]

end CollectionSchema

end CollectionSearch
