import CollectionSearch.QueryError
import CollectionSearch.Schema.Collection

/-!
# Vector queries

The search for the documents nearest to a vector. As a parameter it is written

```text
embedding:([0.12,-0.5,0.33], k:10)
```

* `VectorQuery` : the queries; `VectorQuery.text` : their text.
* `VectorQuery.check` : whether the field holds vectors.
* `VectorQuery.decode`, `VectorQuery.toJson` : the JSON form.
-/

namespace CollectionSearch

/-- The search for the documents nearest to a vector. -/
structure VectorQuery where
  /-- The field that holds the vectors. -/
  field : String
  /-- The components of the vector. -/
  vector : List Single
  /-- How many documents are wanted. -/
  k : UInt64

namespace VectorQuery

/-- The text of the components. -/
def components (q : VectorQuery) : List String := q.vector.map Binary.plainText

/-- The text of a query. -/
def text (q : VectorQuery) : String :=
  q.field ++ ":([" ++ ",".intercalate q.components ++ "], k:" ++ toString q.k.toNat ++ ")"

/-- Checks that the field is declared to hold vectors. -/
def check (q : VectorQuery) (s : CollectionSchema) : Except QueryError Unit :=
  if q.field ∈ s.vectors then .ok () else .error (.notVector q.field)

/-- The parts of a query. -/
def record : Record Json VectorQuery :=
  VectorQuery.mk <$> Record.required "field" decodeString
    <*> Record.required "vector" (decodeList decodeSingle)
    <*> Record.required "k" decodeSize

/-- Reads a query. -/
def decode : Decoder Json VectorQuery := record.decode "VectorQuery"

/-- The JSON form. -/
def toJson (q : VectorQuery) : Json :=
  .object [("field", .string q.field), ("vector", .array (q.vector.map .ofSingle)),
    ("k", .ofUInt64 q.k)]

/-- A query passes exactly when its field holds vectors. -/
theorem check_eq_ok_iff (q : VectorQuery) (s : CollectionSchema) :
    q.check s = .ok () ↔ q.field ∈ s.vectors := by
  unfold check
  split <;> simp_all

end VectorQuery

end CollectionSearch
