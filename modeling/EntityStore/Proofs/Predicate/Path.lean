import EntityStore.Predicate.Builder
import Mathlib.Data.List.Induction

/-! Where a path leads.
A path that is built name by name has a key that is taken apart into the same names, so what a
comparison at the path looks at can be told without any key: it follows the relations of the path,
one after another, and tests the slots of the attribute at the end.
-/

namespace EntityStore

-----------------------------------------------------------------------------------------
-- Keys
-----------------------------------------------------------------------------------------

/-- The name can stand in a key: there is one, and it has no dots. -/
def IsPlainName (name : String) : Prop :=
  name ≠ "" ∧ '.' ∉ name.toList

instance (name : String) : Decidable (IsPlainName name) :=
  inferInstanceAs (Decidable (_ ∧ _))

/-- A text without dots is a single piece. -/
theorem dotted_of_plain {piece : List Char} (plain : '.' ∉ piece) : dotted piece = [piece] := by
  induction piece with
  | nil => rfl
  | cons c rest ih =>
      rw [List.mem_cons, not_or] at plain
      rw [dotted, if_neg (Ne.symm plain.1), ih plain.2]

/-- Every text has a piece. -/
theorem dotted_ne_nil (text : List Char) : dotted text ≠ [] := by
  cases text with
  | nil => simp [dotted]
  | cons c rest =>
      rw [dotted]
      split
      · exact List.cons_ne_nil _ _
      · split <;> exact List.cons_ne_nil _ _

/-- A piece behind a dot is one more piece.
Witness: induction on the text before the dot.
-/
theorem dotted_append_dot {piece : List Char} (plain : '.' ∉ piece) (text : List Char)
    : dotted (text ++ '.' :: piece) = dotted text ++ [piece] := by
  induction text with
  | nil => simp [dotted, dotted_of_plain plain]
  | cons c rest ih =>
      rw [List.cons_append, dotted, dotted, ih]
      split
      · rfl
      · cases pieces : dotted rest with
        | nil => exact absurd pieces (dotted_ne_nil rest)
        | cons first others => rfl

/-- The names along a key, none along the empty one. -/
def pathNames (key : String) : List String :=
  if key = "" then [] else keyNames key

/-- A joined key has one more name. -/
theorem keyNames_joinKey {name : String} (plain : IsPlainName name) (key : String)
    : keyNames (joinKey key name) = pathNames key ++ [name] := by
  unfold joinKey pathNames
  simp only [String.isEmpty_iff]
  split
  · simp [keyNames, dotted_of_plain plain.2]
  · have chars : (key ++ "." ++ name).toList = key.toList ++ '.' :: name.toList := by
      simp [String.toList_append]
    rw [keyNames, chars, dotted_append_dot plain.2, List.map_append, keyNames]
    simp

/-- A joined key is not empty. -/
theorem joinKey_ne_empty {name : String} (plain : IsPlainName name) (key : String)
    : joinKey key name ≠ "" := by
  unfold joinKey
  split
  · exact plain.1
  · intro empty
    have := congrArg String.toList empty
    simp [String.toList_append] at this

/-- The path along several steps from the queried object, each a name that may stand for a list. -/
def KeyPath.along (steps : List (String × Bool)) : KeyPath :=
  steps.foldl (fun path step => path.step step.1 step.2) .root

/-- A path along steps has their names in its key and knows whether one of them stands for a list.
Witness: induction on the steps from their end, where a path grows.
-/
theorem KeyPath.along_spec (steps : List (String × Bool))
    (plain : ∀ step ∈ steps, IsPlainName step.1)
    : pathNames (along steps).key = steps.map (·.1) ∧ (along steps).anyOf = steps.any (·.2) := by
  induction steps using List.reverseRecOn with
  | nil => exact ⟨rfl, rfl⟩
  | append_singleton steps last ih =>
      have grown : along (steps ++ [last]) = (along steps).step last.1 last.2 := by
        rw [along, List.foldl_append]
        rfl
      have plain' : IsPlainName last.1 := plain last (List.mem_append_right _ List.mem_cons_self)
      obtain ⟨names, flag⟩ :=
        ih (fun step listed => plain step (List.mem_append_left _ listed))
      rw [grown, step]
      refine ⟨?_, ?_⟩
      · rw [pathNames, if_neg (joinKey_ne_empty plain' _), keyNames_joinKey plain', names,
          List.map_append]
        rfl
      · rw [flag, List.any_append]
        simp

-----------------------------------------------------------------------------------------
-- Slots
-----------------------------------------------------------------------------------------

/-- Relations lead from one record to another, through members that the source knows. -/
inductive Leads (source : RecordSource) : List String → Record → Record → Prop where
  | here {record} : Leads source [] record record
  | along {relation relations record id next last}
      (member : id ∈ record.related relation) (present : source id = some next)
      (later : Leads source relations next last)
    : Leads source (relation :: relations) record last

/-- The slots of an attribute: its value, each item of a list, or an empty one where there is no value.
An empty list has no slot. -/
inductive SlotOf (key : String) (record : Record) : Option Value → Prop where
  | absent (missing : record.value? key = none) : SlotOf key record none
  | single {value} (present : record.value? key = some value)
      (plain : ∀ items, value ≠ .list items)
    : SlotOf key record (some value)
  | item {items value} (present : record.value? key = some (.list items))
      (listed : value ∈ items)
    : SlotOf key record (some value)

/-- The first slot of an attribute. -/
def Record.firstSlot? (key : String) (record : Record) : Option (Option Value) :=
  match record.value? key with
  | some (.list items) => items.head?.map some
  | slot => some slot

/-- The first slot that relations lead to, where members are followed in their order and each is
followed to the end before the next one. -/
def firstSlot? (source : RecordSource) (key : String) : List String → Record → Option (Option Value)
  | [], record => record.firstSlot? key
  | relation :: relations, record =>
      (record.related relation).findSome? (fun id =>
        (source id).bind (firstSlot? source key relations))

theorem mem_slots_iff {key : String} {record : Record} {slot : Option Value}
    : slot ∈ slots key record ↔ SlotOf key record slot := by
  unfold slots
  split
  · next items present =>
      constructor
      · intro listed
        obtain ⟨value, inside, rfl⟩ := List.mem_map.mp listed
        exact .item present inside
      · intro slotOf
        cases slotOf with
        | absent missing =>
            rw [present] at missing
            contradiction
        | single found plain =>
            rw [present, Option.some.injEq] at found
            exact absurd found.symm (plain items)
        | item found inside =>
            rw [present, Option.some.injEq, Value.list.injEq] at found
            exact List.mem_map_of_mem (found ▸ inside)
  · next plain =>
      rw [List.mem_singleton]
      constructor
      · rintro rfl
        cases value : record.value? key with
        | none => exact .absent value
        | some value' => exact .single value (fun items same => plain items (same ▸ value))
      · intro slotOf
        cases slotOf with
        | absent missing => exact missing.symm
        | single found _ => exact found.symm
        | item found _ => exact absurd found (plain _)

theorem head?_slots (key : String) (record : Record)
    : (slots key record).head? = record.firstSlot? key := by
  unfold slots Record.firstSlot?
  cases record.value? key with
  | none => rfl
  | some value =>
      cases value with
      | list items => exact List.head?_map
      | _ => rfl

/-- The records that relations reach are the ones that they lead to.
Witness: induction on the relations; the first one leads to the members that are there.
-/
theorem mem_reachRecords_iff {source : RecordSource} {relations : List String}
    {records : List Record} {last : Record}
    : last ∈ reachRecords source relations records
      ↔ ∃ record ∈ records, Leads source relations record last := by
  induction relations generalizing records with
  | nil =>
      rw [reachRecords]
      constructor
      · exact fun listed => ⟨last, listed, .here⟩
      · rintro ⟨record, listed, leads⟩
        cases leads
        exact listed
  | cons relation relations ih =>
      rw [reachRecords, ih]
      constructor
      · rintro ⟨next, listed, leads⟩
        obtain ⟨record, listed, member⟩ := List.mem_flatMap.mp listed
        obtain ⟨id, inside, present⟩ := List.mem_filterMap.mp member
        exact ⟨record, listed, .along inside present leads⟩
      · rintro ⟨record, listed, leads⟩
        cases leads with
        | along inside present later =>
            refine ⟨_, List.mem_flatMap.mpr ⟨record, listed, ?_⟩, later⟩
            exact List.mem_filterMap.mpr ⟨_, inside, present⟩

/-- The first slot of all records that relations reach from some is the first one that they lead to from
the first of those from which they lead to any.
Witness: induction on the relations; level by level or one member after another, the order is the same.
-/
theorem head?_flatMap_reachRecords (source : RecordSource) (key : String)
    (relations : List String) (records : List Record)
    : ((reachRecords source relations records).flatMap (slots key)).head?
      = records.findSome? (firstSlot? source key relations) := by
  induction relations generalizing records with
  | nil =>
      rw [reachRecords, List.head?_flatMap]
      exact congrArg (records.findSome? ·) (funext (head?_slots key))
  | cons relation relations ih =>
      rw [reachRecords, ih, ← List.head?_filterMap, List.filterMap_flatMap, List.head?_flatMap]
      refine congrArg (records.findSome? ·) (funext (fun record => ?_))
      rw [List.filterMap_filterMap, List.head?_filterMap]
      rfl

/-- A comparison at the end of a path asks for any slot that the path leads to and that passes, where one
of the names on the way or the attribute stands for a list. Else it tests the first slot, or an empty
one where the path leads to none.
Witness: the key of the path is taken apart into the names that it was built of.
-/
theorem leaf_evaluate_iff (source : RecordSource) (record : Record)
    {steps : List (String × Bool)} (plain : ∀ step ∈ steps, IsPlainName step.1) {name : String}
    (named : IsPlainName name) (list : Bool) (comparison : Comparison)
    : (((KeyPath.along steps).step name list).leaf comparison).evaluate source record = true
      ↔ if steps.any (·.2) || list then
          ∃ last slot,
            Leads source (steps.map (·.1)) record last
            ∧ SlotOf name last slot
            ∧ comparison.test slot = true
        else comparison.test (firstSlot? source name (steps.map (·.1)) record).join = true := by
  obtain ⟨names, flag⟩ := KeyPath.along_spec steps plain
  let key : String := joinKey (KeyPath.along steps).key name
  have parts : keyNames key = steps.map (·.1) ++ [name] := by
    rw [keyNames_joinKey named, names]
  have relations : keyRelations key = steps.map (·.1) := by
    rw [keyRelations, parts, List.dropLast_concat]
  have ending : keyAttribute key = name := by
    rw [keyAttribute, parts, List.getLast?_concat, Option.getD_some]
  have reached : reach source key record
      = (reachRecords source (steps.map (·.1)) [record]).flatMap (slots name) := by
    rw [reach, relations, ending]
  rw [KeyPath.leaf, KeyPath.step, Predicate.evaluate, flag]
  split
  · rw [reached, List.any_flatMap, List.any_eq_true]
    simp only [mem_reachRecords_iff, List.mem_singleton, exists_eq_left, List.any_eq_true,
      mem_slots_iff]
    constructor
    · rintro ⟨last, leads, slot, slotOf, passes⟩
      exact ⟨last, slot, leads, slotOf, passes⟩
    · rintro ⟨last, slot, leads, slotOf, passes⟩
      exact ⟨last, leads, slot, slotOf, passes⟩
  · rw [firstReached?, reached, head?_flatMap_reachRecords]
    simp

/-- An author who is listed among its own books, next to one that does not exist and one with tags. -/
private def shelf (id : ObjectId) : Option Record :=
  if id = ⟨1⟩ then
    some ((Record.new ⟨1⟩ "Author").setRelated "books" [⟨9⟩, ⟨1⟩, ⟨2⟩])
  else if id = ⟨2⟩ then
    some ((Record.new ⟨2⟩ "Book").setValue "tags" (some (.list [.string "new", .string "rare"])))
  else none

/-- Some tag of some book is "rare", which a path tells that asks for any of them. The first slot on the
way is the empty one of the author, who has no tags and comes before the book.
-/
theorem shelf_leads
    : let author := (Record.new ⟨1⟩ "Author").setRelated "books" [⟨9⟩, ⟨1⟩, ⟨2⟩]
      let rare : Comparison := .equals (.string "rare")
      let any := (KeyPath.along [("books", true)]).step "tags" true
      let first := (KeyPath.along [("books", false)]).step "tags" false
      (any.leaf rare).evaluate shelf author = true
      ∧ (∃ last slot,
          Leads shelf ["books"] author last ∧ SlotOf "tags" last slot ∧ rare.test slot = true)
      ∧ (first.leaf rare).evaluate shelf author = false
      ∧ rare.test (firstSlot? shelf "tags" ["books"] author).join = false := by
  intro author rare any first
  have plain (list : Bool) : ∀ step ∈ [("books", list)], IsPlainName step.1 := by decide +revert
  have named : IsPlainName "tags" := by decide
  have passes : (any.leaf rare).evaluate shelf author = true := by decide +kernel
  have fails : (first.leaf rare).evaluate shelf author = false := by decide +kernel
  have found := (leaf_evaluate_iff shelf author (plain true) named true rare).mp passes
  have missed := leaf_evaluate_iff shelf author (plain false) named false rare
  refine ⟨passes, found, fails, ?_⟩
  rw [← Bool.not_eq_true]
  exact fun holds => Bool.eq_false_iff.mp fails (missed.mpr holds)

end EntityStore
