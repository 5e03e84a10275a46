import CollectionSearch.Decode.Record

/-!
# Facets

How many results have which value of a field. The search service reports one block per field; a
table of facets has the counts by field, in the order in which the fields first appear.

* `FacetCount` : a value and how often it occurs.
* `FacetBlock` : what is reported for one field.
* `Facets` : the table. `Facets.counts` looks a field up, `Facets.ofBlocks` makes the table.
-/

namespace CollectionSearch

/-! ## Counts -/

/-- A value and how often it occurs. -/
structure FacetCount where
  /-- The number of results with the value. -/
  count : UInt64
  /-- The value with what the query matched marked. -/
  highlighted : String
  /-- The value. -/
  value : String
  deriving DecidableEq

namespace FacetCount

/-- The parts of a count. -/
def record : Record Json FacetCount :=
  FacetCount.mk <$> Record.required "count" decodeUInt64
    <*> Record.defaulted "highlighted" "" decodeString
    <*> Record.required "value" decodeString

/-- Reads a count. -/
def decode : Decoder Json FacetCount := record.decode "FacetCount"

/-- The JSON form. -/
def toJson (c : FacetCount) : Json :=
  .object [("count", .ofUInt64 c.count), ("highlighted", .string c.highlighted),
    ("value", .string c.value)]

end FacetCount

/-! ## Blocks -/

/-- What is reported for one field. -/
structure FacetBlock where
  /-- The field. -/
  field : String
  /-- Its values. -/
  counts : List FacetCount
  /-- Sums and bounds, for fields of numbers. -/
  stats : Option Json

namespace FacetBlock

/-- The parts of a block. -/
def record : Record Json FacetBlock :=
  FacetBlock.mk <$> Record.required "field_name" decodeString
    <*> Record.defaulted "counts" [] (decodeList FacetCount.decode)
    <*> Record.optional "stats" decodeJson

/-- Reads a block. -/
def decode : Decoder Json FacetBlock := record.decode "RawFacetCounts"

/-- The JSON form. -/
def toJson (b : FacetBlock) : Json :=
  .ofPresent [("field_name", some (.string b.field)),
    ("counts", some (.array (b.counts.map FacetCount.toJson))), ("stats", b.stats)]

end FacetBlock

/-! ## Tables -/

/-- The counts by field. -/
abbrev Facets : Type := OrderedMap String (List FacetCount)

/-- A table has no counts for a field that was asked for. -/
structure MissingFacet where
  /-- The field. -/
  field : String
  deriving DecidableEq

/-- The wording of a missing facet. -/
def MissingFacet.message (e : MissingFacet) : String :=
  "no facet counts for field '" ++ e.field ++ "'"

namespace Facets

/-- The counts of a field that must be there. -/
def counts (f : Facets) (field : String) : Except MissingFacet (List FacetCount) :=
  match f.get? field with
  | some counts => .ok counts
  | none => .error ⟨field⟩

/-- The table of blocks. Of several blocks for one field the last counts, at the place of the
first. -/
def ofBlocks (blocks : List FacetBlock) : Facets :=
  .ofList (blocks.map fun b => (b.field, b.counts))

/-- Exactly the fields without counts are missing. -/
theorem counts_eq_error_iff (f : Facets) (field : String) :
    f.counts field = .error ⟨field⟩ ↔ f.get? field = none := by
  unfold counts
  cases f.get? field <;> simp

end Facets

end CollectionSearch
