import EntityStore.Entity.Mapping
import EntityStore.Predicate.Display

/-! Queries: a filter and sort keys over the records of one entity type.
A query answers with the objects of the records that match; records that do not map are passed over. What a
query asks for can be declared step by step, and every step adds terms to the filter or keys to the order.
-/

namespace EntityStore

/-- What may be given where terms of a filter or sort keys are asked for. -/
inductive Collected (α : Type) where
  | nothing
  | one (item : α)
  | several (items : List α)
  | perhaps (item : Option α)
  deriving DecidableEq, Repr

/-- The items, in the order in which they are given. -/
def Collected.toList : Collected α → List α
  | nothing => []
  | one item => [item]
  | several items => items
  | perhaps item => item.toList

/-- A reusable query over an entity type of a model. -/
structure Query where
  model : Model
  entity : String
  filter : Predicate
  sort : List SortDescriptor

namespace Query

/-- The query for the records that match every term. -/
def ofTerms (model : Model) (entity : String) (terms : List Predicate)
    (sort : List SortDescriptor)
    : Query :=
  { model, entity, filter := .all terms, sort }

/-- The entity whose records are asked for. -/
def entityName (query : Query) : String :=
  (query.model.entity query.entity).name

/-- The objects of records, without the records that do not map. -/
def objects (query : Query) (context : Context) : List Record → Attempt (List Object)
  | [] => pure []
  | record :: records => do
      let object ← (context.map query.model query.entity record).object?
      let objects ← query.objects context records
      pure (object.toList ++ objects)

/-- The records that match, in order. -/
def records (query : Query) (sorting : Sorting) (context : Context) : Attempt (List Record) :=
  context.fetch sorting query.entityName query.filter query.sort

/-- The objects of the records that match, in order. -/
def answer (query : Query) (sorting : Sorting) (context : Context) : Attempt (List Object) := do
  let records ← query.records sorting context
  query.objects context records

/-- The job that fetches the objects of the records that match. -/
def fetch (query : Query) (sorting : Sorting) : Job (List Object) := do
  let context ← get
  (query.answer sorting context : Attempt _)

/-- The job that deletes the records that match at its start. -/
def deleteMatches (query : Query) : Job Unit :=
  Job.write (fun context =>
    ((context.matching query.entityName query.filter).map (·.id)).foldl Context.delete context)

/-- The description of a sort key. -/
def describeSort (descriptor : SortDescriptor) : String :=
  "SortDescriptor \x7b key: " ++ Text.quoted descriptor.key ++ ", ascending: "
    ++ (if descriptor.ascending then "true" else "false") ++ " \x7d"

/-- The description of a query. -/
def describe (query : Query) : String :=
  "QueryExecutor \x7b filter: " ++ Text.quoted query.filter.displayText ++ ", sort: ["
    ++ ", ".intercalate (query.sort.map describeSort) ++ "], .. \x7d"

end Query

/-- A declared query: its filter terms, and its sort keys with the most significant one first. -/
structure QuerySpec where
  filter : List Predicate
  sort : List SortDescriptor

namespace QuerySpec

/-- Everything matches, in no order of its own. -/
def new : QuerySpec :=
  { filter := [], sort := [] }

/-- Adds filter terms. -/
def filterBy (spec : QuerySpec) (terms : Collected Predicate) : QuerySpec :=
  { spec with filter := spec.filter ++ terms.toList }

/-- Adds sort keys behind those that are there. -/
def sortBy (spec : QuerySpec) (keys : Collected SortDescriptor) : QuerySpec :=
  { spec with sort := spec.sort ++ keys.toList }

/-- The query for the records that match every term. -/
def query (spec : QuerySpec) (model : Model) (entity : String) : Query :=
  .ofTerms model entity spec.filter spec.sort

end QuerySpec

end EntityStore
