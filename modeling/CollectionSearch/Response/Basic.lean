import CollectionSearch.Response.Facets

/-!
# Search responses

What the search service answers to a search, with documents of any type.

* `SearchHit` : a document that was found.
* `SearchResponse` : the answer; `SearchResponse.decode` and `SearchResponse.encode` : its JSON
  form, given that of documents. A document that cannot be written keeps the whole from it.
* `SearchResponse.documents`, `SearchResponse.facets` : the documents and the table of facets.
-/

namespace CollectionSearch

variable {D : Type}

/-! ## Hits -/

/-- A document that was found. -/
structure SearchHit (D : Type) where
  /-- The document. -/
  document : D
  /-- How well its text matches. -/
  textMatch : Option UInt64
  /-- How far it is from a vector. -/
  vectorDistance : Option Double
  /-- Where its text matches. -/
  highlights : Option Json

namespace SearchHit

/-- The parts of a hit. -/
def record (document : Decoder Json D) : Record Json (SearchHit D) :=
  SearchHit.mk <$> Record.required "document" document
    <*> Record.optional "text_match" decodeUInt64
    <*> Record.optional "vector_distance" decodeDouble
    <*> Record.optional "highlights" decodeJson

/-- Reads a hit. -/
def decode (document : Decoder Json D) : Decoder Json (SearchHit D) :=
  (record document).decode "SearchHit"

/-- Writes a hit, unless its document cannot be written. -/
def encode (document : D → Except String Json) (h : SearchHit D) : Except String Json := do
  let written ← document h.document
  return .ofPresent [("document", some written),
    ("text_match", h.textMatch.map .ofUInt64),
    ("vector_distance", h.vectorDistance.map .ofDouble),
    ("highlights", h.highlights)]

end SearchHit

/-! ## Responses -/

/-- The answer to a search. -/
structure SearchResponse (D : Type) where
  /-- How many documents suit the search. -/
  found : UInt64
  /-- How many documents there are. -/
  outOf : UInt64
  /-- The number of the page. -/
  page : UInt32
  /-- The documents on the page. -/
  hits : List (SearchHit D)
  /-- The facets, if any were asked for. -/
  facetBlocks : Option (List FacetBlock)
  /-- How long the search took, in milliseconds. -/
  searchTime : UInt64

namespace SearchResponse

/-- The parts of an answer. -/
def record (document : Decoder Json D) : Record Json (SearchResponse D) :=
  SearchResponse.mk <$> Record.defaulted "found" 0 decodeUInt64
    <*> Record.defaulted "out_of" 0 decodeUInt64
    <*> Record.defaulted "page" 0 decodeUInt32
    <*> Record.defaulted "hits" [] (decodeList (SearchHit.decode document))
    <*> Record.optional "facet_counts" (decodeList FacetBlock.decode)
    <*> Record.defaulted "search_time_ms" 0 decodeUInt64

/-- Reads an answer. -/
def decode (document : Decoder Json D) : Decoder Json (SearchResponse D) :=
  (record document).decode "SearchResponse"

/-- Writes an answer, unless one of its documents cannot be written. -/
def encode (document : D → Except String Json) (r : SearchResponse D) : Except String Json := do
  let hits ← r.hits.mapM (SearchHit.encode document)
  return .ofPresent [("found", some (.ofUInt64 r.found)), ("out_of", some (.ofUInt64 r.outOf)),
    ("page", some (.ofUInt32 r.page)),
    ("hits", some (.array hits)),
    ("facet_counts", r.facetBlocks.map fun l => .array (l.map FacetBlock.toJson)),
    ("search_time_ms", some (.ofUInt64 r.searchTime))]

/-- The documents in the order of the hits. -/
def documents (r : SearchResponse D) : List D := r.hits.map SearchHit.document

/-- The facets by field; none when there is no section of facets. -/
def facets (r : SearchResponse D) : Facets := .ofBlocks (r.facetBlocks.getD [])

end SearchResponse

end CollectionSearch
