import EntityStore.Proofs.Context.Overlay
import EntityStore.Proofs.Snapshot.Value
import EntityStore.Store.Snapshot

/-! Which snapshots are given back by their texts.
Whatever records a snapshot holds, its text is a document that is read as it was written. Identifiers,
names and relations are given back in any case, so only the attributes decide whether the snapshot is.
-/

namespace EntityStore

open Json

-----------------------------------------------------------------------------------------
-- Records
-----------------------------------------------------------------------------------------

namespace ObjectId

theorem written_toJson (id : ObjectId) : Json.Written id.toJson :=
  .number (isLiteral_integerText id.number.toNat)

/-- An identifier is given back. -/
theorem ofJson?_toJson (id : ObjectId) : ofJson? id.toJson = some id := by
  rw [ofJson?, toJson, toUInt64?_ofInt]
  rfl

end ObjectId

namespace Record

/-- Every record has a document with a text of its own. -/
theorem written_toJson (record : Record) : Json.Written record.toJson := by
  refine .record (fun field stands => ?_)
  simp only [List.mem_cons, List.not_mem_nil, or_false] at stands
  rcases stands with rfl | rfl | rfl | rfl
  · exact record.id.written_toJson
  · exact .text record.entity
  · refine .record (fun field stands => ?_)
    obtain ⟨entry, _, rfl⟩ := List.mem_map.mp stands
    exact entry.2.written_toJson
  · refine .record (fun field stands => ?_)
    obtain ⟨entry, _, rfl⟩ := List.mem_map.mp stands
    refine .array (fun json inside => ?_)
    obtain ⟨id, _, rfl⟩ := List.mem_map.mp inside
    exact id.written_toJson

/-- The document of the attributes of a record. -/
def attributesJson (record : Record) : Json :=
  .record (record.attributes.entries.map (fun entry => (entry.1, entry.2.toJson)))

/-- The relations of a record are given back. -/
theorem toTable?_relations (depth : Nat) (record : Record)
    : (Json.record (record.relations.entries.map
          (fun entry => (entry.1, .array (entry.2.map ObjectId.toJson))))).toTable? (depth + 2)
        (fun depth => Json.toList? depth (fun _ => ObjectId.ofJson?))
      = some record.relations := by
  refine (toTable?_record_eq_some_iff (depth + 1) _
    (fun ids => .array (ids.map ObjectId.toJson)) record.relations).mpr (fun entry _ => ?_)
  exact (toList?_array_eq_some_iff _ _ _ _).mpr (fun id _ => id.ofJson?_toJson)

/-- All of a record but its attributes is given back. -/
theorem ofJson?_toJson (depth : Nat) (record : Record)
    : ofJson? (depth + 3) record.toJson
      = (record.attributesJson.toTable? (depth + 2) Value.ofJson?).map
          (fun attributes => { record with attributes }) := by
  have fields := toFields?_record (depth + 2)
    [("id", record.id.toJson), ("entity", .text record.entity),
      ("attributes", record.attributesJson),
      ("relations", .record (record.relations.entries.map
        (fun entry => (entry.1, .array (entry.2.map ObjectId.toJson)))))]
    (show ["id", "entity", "attributes", "relations"].Nodup by decide)
  have written : record.toJson.toFields? (depth + 3) ["id", "entity", "attributes", "relations"] = _ :=
    fields
  have id := record.id.ofJson?_toJson
  have relations := record.toTable?_relations depth
  have inner : depth + 3 - 1 = depth + 2 := rfl
  simp only [ofJson?, written, Fields.required?, Fields.defaulted?, Fields.value?]
  simp only [List.map_cons, List.map_nil, List.getElem?_cons_zero, List.getElem?_cons_succ,
    Option.join_some, Option.bind_eq_bind, Option.bind_some, inner, id, relations, toText?, text]
  cases record.attributesJson.toTable? (depth + 2) Value.ofJson? <;> rfl

/-- The attributes of a record meet a demand. -/
def meets (demand : Demand) (levels : Nat) (record : Record) : Bool :=
  record.attributes.values.all (·.meets demand levels)

/-- A record is read from its document as far as its attributes are. -/
theorem givesBack_toJson (levels : Nat) (record : Record)
    : GivesBack (ofJson? (2 * levels + 3) record.toJson) record (record.meets .lasts levels)
        (record.meets .isRead levels) := by
  have each : GivesBack (record.attributesJson.toTable? (2 * levels + 2) Value.ofJson?)
      record.attributes (record.meets .lasts levels) (record.meets .isRead levels) :=
    .table (fun value _ => value.givesBack_toJson levels)
  rw [ofJson?_toJson]
  exact each.map (fun _ _ same => congrArg Record.attributes same)

end Record

-----------------------------------------------------------------------------------------
-- Snapshots
-----------------------------------------------------------------------------------------

/-- How many levels of lists a snapshot has room for in an attribute. -/
def Snapshot.listLevels : Nat := 61

/-- The records of an arena meet a demand where they are read from a snapshot. -/
def Arena.meets (demand : Demand) (arena : Arena) : Bool :=
  arena.values.all (·.meets demand Snapshot.listLevels)

theorem Arena.meets_of_implies {strong weak : Demand} (implies : strong.Implies weak) {arena : Arena}
    (strongly : arena.meets strong = true)
    : arena.meets weak = true := by
  simp only [Arena.meets, Record.meets, List.all_eq_true] at strongly ⊢
  exact fun record stands value inside =>
    Value.meets_of_implies implies (strongly record stands value inside)

/-- The entries of an arena whose records stand under their own identifiers. -/
theorem Arena.entries_of_keyed {arena : Arena} (keyed : Keyed arena.get?)
    : arena.values.map (fun record => (record.id, record)) = arena.entries := by
  have each : ∀ entry ∈ arena.entries, (entry.2.id, entry.2) = entry := by
    intro entry stands
    rw [keyed (Table.get?_eq_some_iff.mpr stands)]
  rw [Table.values, List.map_map]
  exact (List.map_congr_left each).trans (List.map_id _)

namespace Snapshot

theorem written_toJson (snapshot : Snapshot) : Json.Written snapshot.toJson := by
  refine .record (fun field stands => ?_)
  rcases List.mem_pair.mp stands with rfl | rfl
  · exact .number (isLiteral_integerText snapshot.nextId.toNat)
  · refine .array (fun json inside => ?_)
    obtain ⟨record, _, rfl⟩ := List.mem_map.mp inside
    exact record.written_toJson

/-- The records of a snapshot are read one by one. -/
theorem read?_text (snapshot : Snapshot)
    : read? snapshot.text
      = (snapshot.records.values.mapM (fun record => Record.ofJson? 125 record.toJson)).map
          (fun records =>
            { snapshot with records := .ofList (records.map (fun record => (record.id, record))) }) := by
  have fields := toFields?_record 126
    [("next_id", .ofInt snapshot.nextId.toNat),
      ("records", .array (snapshot.records.values.map Record.toJson))]
    (show ["next_id", "records"].Nodup by decide)
  have written : snapshot.toJson.toFields? depthLimit ["next_id", "records"] = _ := fields
  have parts : (Json.array (snapshot.records.values.map Record.toJson)).toList? (depthLimit - 1)
      Record.ofJson?
      = snapshot.records.values.mapM (fun record => Record.ofJson? 125 record.toJson) := by
    rw [depthLimit, toList?, List.mapM_map]
    rfl
  rw [read?, text, read?_render snapshot.written_toJson, Option.bind_eq_bind, Option.bind_some]
  simp only [ofJson?, written, Fields.required?, Fields.value?]
  simp only [List.map_cons, List.map_nil, List.getElem?_cons_zero, List.getElem?_cons_succ,
    Option.join_some, Option.bind_eq_bind, Option.bind_some, toUInt64?_ofInt, parts]
  cases snapshot.records.values.mapM (fun record => Record.ofJson? 125 record.toJson) <;> rfl

/-- The next identifier is given back. -/
theorem nextId_of_read? {snapshot other : Snapshot} (found : read? snapshot.text = some other)
    : other.nextId = snapshot.nextId := by
  rw [read?_text] at found
  obtain ⟨_, _, rfl⟩ := Option.map_eq_some_iff.mp found
  rfl

/-- What is read of the records of an arena, one by one, stands under the keys of the arena and is of the
same entity types. -/
private theorem entries_of_founds {arena : Arena} (keyed : Keyed arena.get?) {records : List Record}
    (founds : arena.values.mapM (fun record => Record.ofJson? 125 record.toJson) = some records)
    : (records.map (fun record => (record.id, record))).map (·.1) = arena.keys
      ∧ records.map (fun record => (record.id, record.entity))
        = arena.entries.map (fun entry => (entry.1, entry.2.entity)) := by
  have entries := Arena.entries_of_keyed keyed
  have kept : records.map (fun record => (record.id, record.entity))
      = arena.values.map (fun record => (record.id, record.entity)) := by
    refine map_eq_of_mapM (fun record result found => ?_) founds
    rw [Record.ofJson?_toJson 122] at found
    obtain ⟨_, _, rfl⟩ := Option.map_eq_some_iff.mp found
    rfl
  constructor
  · rw [Table.keys, ← entries, List.map_map, List.map_map]
    have ids := congrArg (List.map (·.1)) kept
    rwa [List.map_map, List.map_map] at ids
  · rw [kept, ← entries, List.map_map]
    rfl

/-- Under each identifier a record is read of the entity type that was written. -/
theorem entity?_of_read? {snapshot other : Snapshot} (keyed : Keyed snapshot.records.get?)
    (found : read? snapshot.text = some other)
    : other.records.entity? = snapshot.records.entity? := by
  rw [read?_text] at found
  obtain ⟨records, founds, rfl⟩ := Option.map_eq_some_iff.mp found
  obtain ⟨keys, types⟩ := entries_of_founds keyed founds
  funext id
  refine Option.ext (fun entity => ?_)
  rw [Arena.entity?_eq_some_iff, Arena.entity?_eq_some_iff, ← types, Table.entries_ofList keys,
    List.map_map]
  rfl

/-- A snapshot is read from its text exactly where each number in it is read. -/
theorem isSome_read?_text (snapshot : Snapshot)
    : (read? snapshot.text).isSome = true ↔ snapshot.records.meets .isRead = true := by
  rw [read?_text, Option.isSome_map, isSome_mapM_iff, Arena.meets, List.all_eq_true]
  exact forall₂_congr (fun record _ => (record.givesBack_toJson listLevels).some)

/-- A snapshot whose records stand under their own identifiers is read back from its text exactly where
each number and each timestamp in it is given back.
-/
theorem read?_text_iff {snapshot : Snapshot} (keyed : Keyed snapshot.records.get?)
    : read? snapshot.text = some snapshot ↔ snapshot.records.meets .lasts = true := by
  have each : (∀ record ∈ snapshot.records.values, Record.ofJson? 125 record.toJson = some record)
      ↔ snapshot.records.meets .lasts = true := by
    rw [Arena.meets, List.all_eq_true]
    exact forall₂_congr (fun record _ => (record.givesBack_toJson listLevels).same)
  have entries := Arena.entries_of_keyed keyed
  rw [read?_text, Option.map_eq_some_iff, ← each, ← mapM_eq_self_iff]
  constructor
  · rintro ⟨records, founds, same⟩
    have made : Table.ofList (records.map (fun record => (record.id, record))) = snapshot.records :=
      congrArg Snapshot.records same
    obtain ⟨keys, _⟩ := entries_of_founds keyed founds
    have given : records = snapshot.records.values := by
      have pairs := (Table.ofList_eq_iff keys).mp made
      rw [Table.values, ← pairs, List.map_map]
      exact (List.map_id _).symm
    rwa [given] at founds
  · intro founds
    refine ⟨_, founds, ?_⟩
    have made := Table.ofList_of_ascending snapshot.records.ascending
    rw [entries, Table.eq_of_entries made]

end Snapshot

end EntityStore
