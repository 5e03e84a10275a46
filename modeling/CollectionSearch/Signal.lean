/-!
# Signals

What the library tells the outside about its work, beside its results: log events and samples of
metrics. Computations give their signals as data, in order.

* `Event` : the log events, with `Event.level`, `Event.message` and `Event.fields`.
* `Operation`, `Timed`, `SearchKind` : the labels of samples.
* `Sample` : the samples, with `Sample.metric`.
* `Signal` : one or the other.
-/

namespace CollectionSearch

/-! ## Events -/

/-- How much an event matters. -/
inductive Level where
  | debug
  | info
  | warn
  deriving DecidableEq

/-- The name of a level. -/
def Level.name : Level → String
  | debug => "DEBUG"
  | info => "INFO"
  | warn => "WARN"

/-- A log event. -/
inductive Event where
  /-- A filter names a field that the schema does not declare. -/
  | undeclaredField (collection field : String)
  /-- A filter value has a character that the expression uses itself. -/
  | unescapedValue (field value : String)
  /-- A further facet query is left out. -/
  | ignoredFacetQuery (collection query : String)
  | creatingCollection (collection : String) (fields : Nat)
  | collectionCreated (collection : String)
  | ensureFailed (collection error : String)
  | collectionAbsent (collection : String)
  | collectionDropped (collection : String)
  | importRejected (collection : String) (failed total : Nat)
  | imported (collection : String) (count : Nat)
  | searching (collection : String)
  | vectorSearch (collection field : String) (dimensions : Nat) (neighbours : Nat)
  | lookupFailed (collection identifier error : String)
  | nothingToDelete (collection identifier : String)
  | creatingDocument (collection identifier : String)
  | emptyDeletion (collection : String)
  | deleted (collection expression : String) (count : Nat)
  deriving DecidableEq

namespace Event

/-- The level of an event. -/
def level : Event → Level
  | unescapedValue .. | ignoredFacetQuery .. | ensureFailed .. | importRejected ..
  | lookupFailed .. => .warn
  | collectionCreated .. | collectionDropped .. => .info
  | _ => .debug

/-- The message of an event. -/
def message : Event → String
  | undeclaredField .. => "Filtering on undeclared field"
  | unescapedValue .. => "Filter value contains a delimiter character and is not escaped"
  | ignoredFacetQuery .. => "Only one facet_query is sent per search; ignoring"
  | creatingCollection .. => "Creating collection"
  | collectionCreated .. => "Collection created"
  | ensureFailed .. => "Failed to ensure collection"
  | collectionAbsent .. => "Collection absent, nothing to drop"
  | collectionDropped .. => "Collection dropped"
  | importRejected .. => "Some documents were rejected on import"
  | imported .. => "Documents imported"
  | searching .. => "Searching"
  | vectorSearch .. => "Vector search"
  | lookupFailed .. => "Document lookup failed"
  | nothingToDelete .. => "Nothing to delete"
  | creatingDocument .. => "Document missing, creating"
  | emptyDeletion .. => "Empty filter, skipping delete"
  | deleted .. => "Deleted by filter"

/-- The fields of an event, in order. -/
def fields : Event → List (String × String)
  | undeclaredField c f => [("collection", c), ("field", f)]
  | unescapedValue f v => [("field", f), ("value", v)]
  | ignoredFacetQuery c q => [("collection", c), ("facet_query", q)]
  | creatingCollection c n => [("collection", c), ("fields", toString n)]
  | collectionCreated c => [("collection", c)]
  | ensureFailed c e => [("collection", c), ("error", e)]
  | collectionAbsent c => [("collection", c)]
  | collectionDropped c => [("collection", c)]
  | importRejected c f t => [("collection", c), ("failed", toString f), ("total", toString t)]
  | imported c n => [("collection", c), ("imported", toString n)]
  | searching c => [("collection", c)]
  | vectorSearch c f d k =>
    [("collection", c), ("field", f), ("dims", toString d), ("k", toString k)]
  | lookupFailed c i e => [("collection", c), ("id", i), ("error", e)]
  | nothingToDelete c i => [("collection", c), ("id", i)]
  | creatingDocument c i => [("collection", c), ("id", i)]
  | emptyDeletion c => [("collection", c)]
  | deleted c e n => [("collection", c), ("filter_by", e), ("deleted", toString n)]

end Event

/-! ## Samples -/

/-- The calls to the search service. -/
inductive Operation where
  | collectionExists
  | createCollection
  | deleteCollection
  | search
  | multiSearch
  | importDocuments
  | retrieve
  | create
  | update
  | delete
  | deleteByFilter
  deriving DecidableEq

/-- The label of a call. -/
def Operation.label : Operation → String
  | collectionExists => "collection_exists"
  | createCollection => "create_collection"
  | deleteCollection => "delete_collection"
  | search => "search"
  | multiSearch => "multi_search"
  | importDocuments => "import"
  | retrieve => "retrieve"
  | create => "create"
  | update => "update"
  | delete => "delete"
  | deleteByFilter => "delete_by_filter"

/-- How a call ended. -/
inductive CallStatus where
  | success
  | notFound
  | error
  deriving DecidableEq

/-- The label of an ending. -/
def CallStatus.label : CallStatus → String
  | success => "success"
  | notFound => "not_found"
  | error => "error"

/-- The changes to a collection as a whole. -/
inductive CollectionChange where
  | ensure
  | create
  | drop
  deriving DecidableEq

/-- The label of a change. -/
def CollectionChange.label : CollectionChange → String
  | ensure => "ensure"
  | create => "create"
  | drop => "drop"

/-- The stretches of work whose duration is measured. -/
inductive Timed where
  | importDocuments
  | search
  | multiSearch
  | delete
  | upsert
  | deleteByFilter
  deriving DecidableEq

/-- The label of a stretch of work. -/
def Timed.label : Timed → String
  | importDocuments => "import"
  | search => "search"
  | multiSearch => "multi_search"
  | delete => "delete"
  | upsert => "upsert"
  | deleteByFilter => "delete_by_filter"

/-- The kinds of search. -/
inductive SearchKind where
  | text
  | vector
  deriving DecidableEq

/-- The label of a kind of search. -/
def SearchKind.label : SearchKind → String
  | text => "text"
  | vector => "vector"

/-- A sample of a metric. -/
inductive Sample where
  /-- A filter was written as an expression, which was empty or not. -/
  | filterCompiled (empty : Bool)
  /-- The number of clauses of an expression. -/
  | filterClauses (count : Nat)
  /-- A call to the search service ended. -/
  | backendOperation (operation : Operation) (status : CallStatus)
  /-- The duration of a stretch of work. -/
  | backendSeconds (timed : Timed)
  /-- A change to a collection ended. -/
  | collectionOperation (change : CollectionChange) (success : Bool)
  /-- The number of hits of a search. -/
  | searchResults (hits : Nat)
  /-- The duration of a search from end to end. -/
  | searchSeconds (kind : SearchKind)
  deriving DecidableEq

/-- A sample as a metrics exporter sees it. -/
structure Metric where
  /-- Whether it adds to a counter; else it is an observation of a histogram. -/
  counter : Bool
  /-- The name of the metric. -/
  name : String
  /-- The labels. -/
  labels : List (String × String)
  /-- The amount; durations have none here. -/
  amount : Option Nat
  deriving DecidableEq

/-- The metric of a sample. -/
def Sample.metric : Sample → Metric
  | filterCompiled empty =>
    ⟨true, "typesense_criteria_filters_compiled_total",
      [("outcome", if empty then "empty" else "compiled")], some 1⟩
  | filterClauses count => ⟨false, "typesense_criteria_filter_clauses", [], some count⟩
  | backendOperation operation status =>
    ⟨true, "typesense_criteria_backend_operations_total",
      [("operation", operation.label), ("status", status.label)], some 1⟩
  | backendSeconds timed =>
    ⟨false, "typesense_criteria_backend_seconds", [("operation", timed.label)], none⟩
  | collectionOperation change success =>
    ⟨true, "typesense_criteria_collection_operations_total",
      [("operation", change.label), ("status", if success then "success" else "error")], some 1⟩
  | searchResults hits => ⟨false, "typesense_criteria_search_results", [], some hits⟩
  | searchSeconds kind => ⟨false, "typesense_criteria_search_seconds", [("kind", kind.label)], none⟩

/-! ## Signals -/

/-- A log event or a sample. -/
inductive Signal where
  | event (e : Event)
  | sample (s : Sample)
  deriving DecidableEq

end CollectionSearch
