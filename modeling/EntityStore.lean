import EntityStore.Context.Basic
import EntityStore.Derive.Accessor
import EntityStore.Derive.Code
import EntityStore.Derive.Entity
import EntityStore.Derive.EntityCode
import EntityStore.Derive.Field
import EntityStore.Derive.FieldType
import EntityStore.Derive.Options
import EntityStore.Derive.Problem
import EntityStore.Derive.SchemaCode
import EntityStore.Derive.Service
import EntityStore.Derive.ServiceCode
import EntityStore.Derive.Storage
import EntityStore.Entity.Accessor
import EntityStore.Entity.Basic
import EntityStore.Entity.Mapping
import EntityStore.Entity.Object
import EntityStore.Entity.Update
import EntityStore.Exchange.Field
import EntityStore.Exchange.Object
import EntityStore.Exchange.Predicate
import EntityStore.Exchange.Schema
import EntityStore.Exchange.Value
import EntityStore.Field.Scalar
import EntityStore.Field.Shape
import EntityStore.Field.Textual
import EntityStore.Json.Basic
import EntityStore.Json.Fields
import EntityStore.Json.Member
import EntityStore.Json.Numeral
import EntityStore.Json.Reader
import EntityStore.Number.Binary
import EntityStore.Number.Shortest
import EntityStore.Number.Text
import EntityStore.Number.Word
import EntityStore.Predicate.Basic
import EntityStore.Predicate.Builder
import EntityStore.Predicate.Comparison
import EntityStore.Predicate.Display
import EntityStore.Predicate.Path
import EntityStore.Proofs.Batch.Append
import EntityStore.Proofs.Batch.Effect
import EntityStore.Proofs.Batch.Lookup
import EntityStore.Proofs.Batch.Loss
import EntityStore.Proofs.Batch.Nesting
import EntityStore.Proofs.Batch.Operations
import EntityStore.Proofs.Batch.Repeat
import EntityStore.Proofs.Batch.Secure
import EntityStore.Proofs.Batch.Single
import EntityStore.Proofs.Batch.Step
import EntityStore.Proofs.Batch.Upsert
import EntityStore.Proofs.Context.Draft
import EntityStore.Proofs.Context.Job
import EntityStore.Proofs.Context.Numbering
import EntityStore.Proofs.Context.Overlay
import EntityStore.Proofs.Context.Sight
import EntityStore.Proofs.Deletion.Closure
import EntityStore.Proofs.Deletion.Exact
import EntityStore.Proofs.Deletion.Shedding
import EntityStore.Proofs.Derive.Acceptance
import EntityStore.Proofs.Derive.Clashes
import EntityStore.Proofs.Derive.Declaration
import EntityStore.Proofs.Derive.Emitters
import EntityStore.Proofs.Derive.Field
import EntityStore.Proofs.Derive.Naming
import EntityStore.Proofs.Derive.Options
import EntityStore.Proofs.Derive.Schema
import EntityStore.Proofs.Field.Encoding
import EntityStore.Proofs.Field.Equality
import EntityStore.Proofs.Forest.Basic
import EntityStore.Proofs.Forest.Cascade
import EntityStore.Proofs.Forest.Confined
import EntityStore.Proofs.Forest.Deletion
import EntityStore.Proofs.Forest.Writes
import EntityStore.Proofs.Json.Fields
import EntityStore.Proofs.Json.Literal
import EntityStore.Proofs.Json.Quote
import EntityStore.Proofs.Json.ReadBack
import EntityStore.Proofs.Json.Real
import EntityStore.Proofs.Mapping.Circular
import EntityStore.Proofs.Mapping.Enters
import EntityStore.Proofs.Mapping.Outcome
import EntityStore.Proofs.Mapping.Recovery
import EntityStore.Proofs.Mapping.Stops
import EntityStore.Proofs.Number.DataText
import EntityStore.Proofs.Number.Lasting
import EntityStore.Proofs.Number.Narrowing
import EntityStore.Proofs.Number.Order
import EntityStore.Proofs.Number.Rounding
import EntityStore.Proofs.Number.Shortest
import EntityStore.Proofs.Number.Word
import EntityStore.Proofs.Object.Arranged
import EntityStore.Proofs.Object.Claims
import EntityStore.Proofs.Object.Completion
import EntityStore.Proofs.Object.Equality
import EntityStore.Proofs.Object.Exact
import EntityStore.Proofs.Object.Identity
import EntityStore.Proofs.Object.Lawful
import EntityStore.Proofs.Object.Mapping
import EntityStore.Proofs.Object.Member
import EntityStore.Proofs.Object.ReadBack
import EntityStore.Proofs.Object.Stored
import EntityStore.Proofs.Predicate.Combinators
import EntityStore.Proofs.Predicate.Comparison
import EntityStore.Proofs.Predicate.Path
import EntityStore.Proofs.Query.Fetch
import EntityStore.Proofs.Query.Locality
import EntityStore.Proofs.Query.Order
import EntityStore.Proofs.Query.Sorting
import EntityStore.Proofs.Service.Keeper
import EntityStore.Proofs.Service.Lawful
import EntityStore.Proofs.Service.Reference
import EntityStore.Proofs.Snapshot.ReadBack
import EntityStore.Proofs.Snapshot.Value
import EntityStore.Proofs.Source.Literal
import EntityStore.Proofs.Source.Name
import EntityStore.Proofs.Source.Parser
import EntityStore.Proofs.Source.Reader
import EntityStore.Proofs.Store.Effect
import EntityStore.Proofs.Store.EmptyUpdates
import EntityStore.Proofs.Store.Endless
import EntityStore.Proofs.Store.Forest
import EntityStore.Proofs.Store.Kept
import EntityStore.Proofs.Store.Loss
import EntityStore.Proofs.Store.Members
import EntityStore.Proofs.Store.Nesting
import EntityStore.Proofs.Store.Numbering
import EntityStore.Proofs.Store.ReadBack
import EntityStore.Proofs.Store.Refinement
import EntityStore.Proofs.Store.Reopening
import EntityStore.Proofs.Store.Repeat
import EntityStore.Proofs.Store.Results
import EntityStore.Proofs.Store.Run
import EntityStore.Proofs.Store.Silence
import EntityStore.Proofs.Store.Split
import EntityStore.Proofs.Store.Survival
import EntityStore.Proofs.Store.Updates
import EntityStore.Proofs.Store.Vacancy
import EntityStore.Proofs.Store.WriteBack
import EntityStore.Proofs.Text.CaseFolding
import EntityStore.Proofs.Text.Fold
import EntityStore.Proofs.Text.Identifier
import EntityStore.Proofs.Text.SnakeCase
import EntityStore.Proofs.Text.Words
import EntityStore.Proofs.Timestamp.Calendar
import EntityStore.Proofs.Timestamp.ReadBack
import EntityStore.Proofs.Value.Order
import EntityStore.Proofs.Write.Basic
import EntityStore.Proofs.Write.EarlyReturn
import EntityStore.Proofs.Write.Keeps
import EntityStore.Proofs.Write.Kept
import EntityStore.Proofs.Write.Members
import EntityStore.Proofs.Write.Object
import EntityStore.Proofs.Write.Operations
import EntityStore.Proofs.Write.Reconcile
import EntityStore.Proofs.Write.Repeat
import EntityStore.Proofs.Write.Settle
import EntityStore.Query
import EntityStore.Record.Basic
import EntityStore.Record.Json
import EntityStore.Schema.Basic
import EntityStore.Schema.Json
import EntityStore.Service.Library
import EntityStore.Service.Zoo
import EntityStore.Sort
import EntityStore.Source.Attribute
import EntityStore.Source.Declaration
import EntityStore.Source.Expression
import EntityStore.Source.Function
import EntityStore.Source.Literal
import EntityStore.Source.Module
import EntityStore.Source.Name
import EntityStore.Source.Parser
import EntityStore.Source.Reader
import EntityStore.Source.Token
import EntityStore.Source.TypeExpr
import EntityStore.Store.Basic
import EntityStore.Store.Config
import EntityStore.Store.Observer
import EntityStore.Store.Snapshot
import EntityStore.Table
import EntityStore.Text.Cluster
import EntityStore.Text.Decomposition
import EntityStore.Text.Fold
import EntityStore.Text.Identifier
import EntityStore.Text.Letter
import EntityStore.Text.Mark
import EntityStore.Text.Printable
import EntityStore.Text.Quoted
import EntityStore.Text.Range
import EntityStore.Text.Similarity
import EntityStore.Text.Words
import EntityStore.Timestamp.Basic
import EntityStore.Timestamp.Reader
import EntityStore.Value.Basic
import EntityStore.Value.Display
import EntityStore.Value.Json
