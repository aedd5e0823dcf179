import EntityStore.Query

/-! Observers of commits.
An observer of results delivers the objects of its query whenever a commit makes them differ from
the last ones it has seen. An observer of updates delivers the objects that a commit has inserted or
changed and that match its query.
-/

namespace EntityStore

/-- An observer of commits. -/
inductive Observer where
  /-- Watches the objects of a query; it has seen these last. -/
  | results (query : Query) (last : List Object)
  /-- Watches the changes of objects that match a query. -/
  | updates (query : Query)

namespace Observer

/-- The records that a commit has inserted or changed and that match a query. -/
def touched (query : Query) (changes : ChangeSet) (view : Context) : List Record :=
  (changes.upserted.filterMap view.record?).filter (fun record =>
    record.entity = query.entityName && query.filter.evaluate view.record? record)

/-- The observer after a commit, with what it delivers. -/
def observe (sorting : Sorting) (changes : ChangeSet) (view : Context)
    : Observer → Attempt (Observer × Option (List Object))
  | results query last => do
      let current ← query.answer sorting view
      if Object.allEqual current last then pure (results query last, none)
      else pure (results query current, some current)
  | updates query => do
      match touched query changes view with
      | [] => pure (updates query, none)
      | records =>
          let records ← sortRecords sorting view.record? query.sort records
          let objects ← query.objects view records
          pure (updates query, some objects)

end Observer

/-- What is to be observed. -/
inductive Subscription where
  /-- The objects of a query; the current ones are delivered at once if asked for. -/
  | results (query : Query) (deliverCurrent : Bool)
  /-- The changes of objects that match a query. -/
  | updates (query : Query)

/-- The observer that a subscription starts with, and what it delivers at once. -/
def Subscription.start (sorting : Sorting) (view : Context)
    : Subscription → Attempt (Observer × Option (List Object))
  | results query deliverCurrent => do
      let current ← query.answer sorting view
      pure (.results query current, if deliverCurrent then some current else none)
  | updates query => pure (.updates query, none)

end EntityStore
