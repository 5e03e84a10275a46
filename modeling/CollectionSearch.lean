import CollectionSearch.Client
import CollectionSearch.Criteria.Assembly
import CollectionSearch.Criteria.Basic
import CollectionSearch.Criteria.Capability
import CollectionSearch.Criteria.Facet
import CollectionSearch.Criteria.QueryBy
import CollectionSearch.Criteria.Sort
import CollectionSearch.Decode.Basic
import CollectionSearch.Decode.Error
import CollectionSearch.Decode.Record
import CollectionSearch.Decode.Source
import CollectionSearch.Filter.Basic
import CollectionSearch.Filter.Expression
import CollectionSearch.Filter.Reading
import CollectionSearch.Filter.Signals
import CollectionSearch.Import.Options
import CollectionSearch.Import.Result
import CollectionSearch.Json.Basic
import CollectionSearch.Json.Outline
import CollectionSearch.Json.Printer
import CollectionSearch.Json.Token
import CollectionSearch.Number.Binary
import CollectionSearch.Number.Decimal
import CollectionSearch.Ordered
import CollectionSearch.Params.Basic
import CollectionSearch.QueryError
import CollectionSearch.Repository.Basic
import CollectionSearch.Repository.Call
import CollectionSearch.Repository.Collections
import CollectionSearch.Repository.Documents
import CollectionSearch.Repository.Program
import CollectionSearch.Repository.Searches
import CollectionSearch.Response.Basic
import CollectionSearch.Response.Facets
import CollectionSearch.Schema.Collection
import CollectionSearch.Schema.Declaration
import CollectionSearch.Schema.Error
import CollectionSearch.Schema.Field
import CollectionSearch.Schema.FieldType
import CollectionSearch.Signal
import CollectionSearch.Text.Character
import CollectionSearch.Text.Composition
import CollectionSearch.Text.Direction
import CollectionSearch.Text.Joining
import CollectionSearch.Text.Mark
import CollectionSearch.Text.Quoted
import CollectionSearch.Text.Split
import CollectionSearch.Url.Authority
import CollectionSearch.Url.Basic
import CollectionSearch.Url.FilePath
import CollectionSearch.Url.Host
import CollectionSearch.Url.Ipv4
import CollectionSearch.Url.Ipv6
import CollectionSearch.Url.Label
import CollectionSearch.Url.LabelCharacter
import CollectionSearch.Url.Punycode
import CollectionSearch.VectorQuery
import CollectionSearch.Proofs.Expression.Parser
import CollectionSearch.Proofs.Expression.Balance
import CollectionSearch.Proofs.Expression.Operand
import CollectionSearch.Proofs.Filter.NormalForm
import CollectionSearch.Proofs.Text.Split
import CollectionSearch.Proofs.Text.Trim
import CollectionSearch.Proofs.Filter.Decoder
import CollectionSearch.Proofs.Filter.Ambiguity
import CollectionSearch.Proofs.Filter.RoundTrip
import CollectionSearch.Proofs.Expression.Reading
import CollectionSearch.Proofs.Filter.Meaning
import CollectionSearch.Proofs.Filter.Nesting
import CollectionSearch.Proofs.Repository.Run
import CollectionSearch.Proofs.Params.Wire
import CollectionSearch.Proofs.Repository.Deletion
import CollectionSearch.Proofs.Schema.Rules
import CollectionSearch.Proofs.Schema.Build
import CollectionSearch.Proofs.Decode.Record
import CollectionSearch.Proofs.Except
import CollectionSearch.Proofs.Schema.JsonForm
import CollectionSearch.Proofs.Criteria.Sent
import CollectionSearch.Proofs.Filter.Reading
import CollectionSearch.Proofs.Filter.JsonForm
import CollectionSearch.Proofs.Filter.Grammar
import CollectionSearch.Proofs.Repository.Guard
import CollectionSearch.Proofs.Repository.Interleaving
import CollectionSearch.Proofs.Repository.Store
import CollectionSearch.Proofs.Repository.Contention
import CollectionSearch.Proofs.Params.JsonForm
import CollectionSearch.Proofs.Criteria.Overrides
import CollectionSearch.Proofs.Criteria.JsonForm
import CollectionSearch.Proofs.Repository.Setup
import CollectionSearch.Proofs.Repository.DocumentMap
import CollectionSearch.Proofs.Repository.Trace
import CollectionSearch.Proofs.Repository.Absence
import CollectionSearch.Proofs.Filter.Pruning
import CollectionSearch.Proofs.Repository.Routine
import CollectionSearch.Proofs.Repository.Metrics
import CollectionSearch.Proofs.Repository.Place
import CollectionSearch.Proofs.Criteria.SortKeys
import CollectionSearch.Proofs.Criteria.Facets
import CollectionSearch.Proofs.Filter.Wholes
import CollectionSearch.Proofs.Filter.Locality
import CollectionSearch.Proofs.Params.MultiSearch
import CollectionSearch.Proofs.Criteria.Omission
import CollectionSearch.Proofs.Text.Digits
import CollectionSearch.Proofs.Url.Authority
import CollectionSearch.Proofs.Url.Node
import CollectionSearch.Proofs.Criteria.Capability
import CollectionSearch.Proofs.Criteria.Weights
import CollectionSearch.Proofs.Params.Merge
import CollectionSearch.Proofs.Params.QueryPairs
import CollectionSearch.Proofs.Repository.Searches
import CollectionSearch.Proofs.Schema.Declaration
import CollectionSearch.Proofs.Repository.Import
import CollectionSearch.Proofs.Insertions
import CollectionSearch.Proofs.VectorQuery
import CollectionSearch.Proofs.Expression.Clauses
import CollectionSearch.Proofs.Filter.Signals
