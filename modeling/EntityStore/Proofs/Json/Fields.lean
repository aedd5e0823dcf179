import EntityStore.Json.Fields
import Mathlib.Data.List.Forall2
import Mathlib.Data.List.Induction

/-! Structures, lists and tables are read back from the documents that are written of them.
What is written of a structure names every field once. What is written of a table has its keys in
ascending order, so the table that is read has the entries that were written.
-/

namespace EntityStore

open Std

-----------------------------------------------------------------------------------------
-- Tables
-----------------------------------------------------------------------------------------

section Ascending

variable {κ : Type} {α : Type} [Ord κ] [TransOrd κ] [LawfulEqOrd κ]

omit [TransOrd κ] [LawfulEqOrd κ] in
/-- An entry behind all others is put at the end.
Witness: induction on the entries.
-/
theorem Entries.insert_last {entries : List (κ × α)} {key : κ} {value : α}
    (behind : ∀ entry ∈ entries, compare key entry.1 = .gt)
    : Entries.insert key value entries = entries ++ [(key, value)] := by
  induction entries with
  | nil => rfl
  | cons entry rest ih =>
      rw [insert, behind entry List.mem_cons_self]
      dsimp only
      rw [ih (fun entry inside => behind entry (.tail _ inside))]
      rfl

/-- Entries that ascend are the entries of their table. -/
theorem Table.ofList_of_ascending {entries : List (κ × α)} (ascending : Ascending entries)
    : (Table.ofList entries).entries = entries := by
  induction entries using List.reverseRecOn with
  | nil => rfl
  | append_singleton entries entry ih =>
      obtain ⟨shorter, _, before⟩ := List.pairwise_append.mp ascending
      have behind : ∀ other ∈ entries, compare entry.1 other.1 = .gt := fun other inside =>
        OrientedCmp.gt_iff_lt.mpr (before other inside entry List.mem_cons_self)
      rw [ofList, List.foldl_append]
      change Entries.insert entry.1 entry.2 (ofList entries).entries = _
      rw [ih shorter, Entries.insert_last behind]

omit [TransOrd κ] [LawfulEqOrd κ] in
theorem Table.eq_of_entries {left right : Table κ α} (same : left.entries = right.entries)
    : left = right := by
  cases left
  cases same
  rfl

/-- Entries with the keys of a table are the entries of their own table. -/
theorem Table.entries_ofList {table : Table κ α} {β : Type} {entries : List (κ × β)}
    (keys : entries.map (·.1) = table.keys)
    : (Table.ofList entries).entries = entries := by
  have ordered : (entries.map (·.1)).Pairwise (fun a b => compare a b = .lt) := by
    rw [keys]
    exact List.pairwise_map.mpr table.ascending
  exact Table.ofList_of_ascending (List.pairwise_map.mp ordered)

/-- Entries with the keys of a table make up the table only if they are its entries. -/
theorem Table.ofList_eq_iff {table : Table κ α} {entries : List (κ × α)}
    (keys : entries.map (·.1) = table.keys)
    : Table.ofList entries = table ↔ entries = table.entries := by
  have same := Table.entries_ofList keys
  constructor
  · intro made
    rw [← made, same]
  · rintro rfl
    exact Table.eq_of_entries same

end Ascending

/-- All items have a result exactly where the results belong to them in order. -/
theorem mapM_eq_some_iff {α β : Type} {f : α → Option β} {items : List α} {results : List β}
    : items.mapM f = some results
      ↔ List.Forall₂ (fun item result => f item = some result) items results := by
  induction items generalizing results with
  | nil =>
      rw [List.mapM_nil, List.forall₂_nil_left_iff]
      exact ⟨fun same => (Option.some.inj same).symm, fun same => congrArg some same.symm⟩
  | cons item items ih =>
      rw [List.mapM_cons, List.forall₂_cons_left_iff]
      simp only [Option.bind_eq_bind, Option.bind_eq_some_iff, ih]
      constructor
      · rintro ⟨first, found, rest, founds, same⟩
        exact ⟨first, rest, found, founds, (Option.some.inj same).symm⟩
      · rintro ⟨first, rest, found, founds, rfl⟩
        exact ⟨first, found, rest, founds, rfl⟩

/-- What each result has of its item, all results have of all items. -/
theorem map_eq_of_mapM {α β γ : Type} {f : α → Option β} {ofItem : α → γ} {ofResult : β → γ}
    (each : ∀ item result, f item = some result → ofResult result = ofItem item)
    {items : List α} {results : List β} (founds : items.mapM f = some results)
    : results.map ofResult = items.map ofItem := by
  have pairs := mapM_eq_some_iff.mp founds
  clear founds
  induction pairs with
  | nil => rfl
  | cons found _ ih => rw [List.map_cons, List.map_cons, each _ _ found, ih]

/-- All items have themselves as results exactly where each has. -/
theorem mapM_eq_self_iff {α : Type} {f : α → Option α} {items : List α}
    : items.mapM f = some items ↔ ∀ item ∈ items, f item = some item := by
  rw [mapM_eq_some_iff, List.forall₂_same]

/-- All items have results exactly where each has one. -/
theorem isSome_mapM_iff {α β : Type} {f : α → Option β} {items : List α}
    : (items.mapM f).isSome = true ↔ ∀ item ∈ items, (f item).isSome = true := by
  induction items with
  | nil => simp
  | cons item items ih =>
      rw [List.mapM_cons, List.forall_mem_cons, ← ih]
      cases f item with
      | none => simp
      | some first => cases items.mapM f <;> simp

namespace Json

-----------------------------------------------------------------------------------------
-- Structures
-----------------------------------------------------------------------------------------

/-- Of fields with different names one has the name of a field.
Witness: induction on the fields.
-/
theorem filter_name {fields : List (String × Json)} (distinct : (fields.map (·.1)).Nodup)
    {field : String × Json} (stands : field ∈ fields)
    : fields.filter (fun other => other.1 = field.1) = [field] := by
  induction fields with
  | nil => cases stands
  | cons first rest ih =>
      obtain ⟨apart, distinct⟩ := List.nodup_cons.mp distinct
      rcases List.mem_cons.mp stands with rfl | later
      · have none : rest.filter (fun other => other.1 = field.1) = [] := by
          rw [List.filter_eq_nil_iff]
          intro other inside same
          exact apart (List.mem_map.mpr ⟨other, inside, of_decide_eq_true same⟩)
        rw [List.filter_cons_of_pos (by simp), none]
      · have other : ¬ first.1 = field.1 := fun same =>
          apart (List.mem_map.mpr ⟨field, later, same.symm⟩)
        rw [List.filter_cons_of_neg (by simpa using other), ih distinct later]

/-- The names of a structure are texts. -/
theorem mapM_record (fields : List (String × Json))
    : (fields.map (fun field => (some field.1, field.2))).mapM (fun (key, value) => key.map (·, value))
      = some fields := by
  rw [mapM_eq_some_iff, List.forall₂_map_left_iff, List.forall₂_same]
  exact fun _ _ => rfl

/-- Every field of a structure with different names is found. -/
theorem toFields?_record (depth : Nat) (fields : List (String × Json))
    (distinct : (fields.map (·.1)).Nodup)
    : (record fields).toFields? (depth + 1) (fields.map (·.1))
      = some { byName := true, values := fields.map (fun field => some field.2) } := by
  have values : (fields.map (·.1)).mapM (fun name => member? name fields)
      = some (fields.map (fun field => some field.2)) := by
    rw [mapM_eq_some_iff, List.forall₂_map_left_iff, List.forall₂_map_right_iff, List.forall₂_same]
    intro field stands
    rw [member?, filter_name distinct stands]
  unfold toFields? record
  simp only [mapM_record, values, Option.bind_eq_bind, Option.bind_some]
  exact if_neg (Nat.succ_ne_zero depth)

-----------------------------------------------------------------------------------------
-- Tables and lists
-----------------------------------------------------------------------------------------

/-- The entry of a table that is read for one that was written. -/
def readEntry (depth : Nat) (read : Nat → Json → Option α) (write : α → Json) (entry : String × α)
    : Option (String × α) :=
  (read depth (write entry.2)).map (entry.1, ·)

/-- The entries of a table are read one by one. -/
theorem mapM_entries (depth : Nat) (read : Nat → Json → Option α) (write : α → Json)
    (entries : List (String × α))
    : ((entries.map (fun entry => (entry.1, write entry.2))).map
          (fun member => (some member.1, member.2))).mapM
        (fun (key, value) => do return (← key, ← read depth value))
      = entries.mapM (readEntry depth read write) := by
  rw [List.map_map, List.mapM_map]
  refine congrArg (entries.mapM ·) (funext (fun entry => ?_))
  cases entry with
  | mk key value =>
      simp only [Function.comp, readEntry]
      cases read depth (write value) <;> rfl

/-- What is written of a table is read entry by entry. -/
theorem toTable?_record {α : Type} (depth : Nat) (read : Nat → Json → Option α) (write : α → Json)
    (entries : List (String × α))
    : (record (entries.map (fun entry => (entry.1, write entry.2)))).toTable? (depth + 1) read
      = (entries.mapM (readEntry depth read write)).map Table.ofList := by
  rw [record, toTable?, mapM_entries]
  cases entries.mapM (readEntry depth read write) <;> rfl

/-- What is written of a table is read back exactly where each of its values is. -/
theorem toTable?_record_eq_some_iff {α : Type} (depth : Nat) (read : Nat → Json → Option α)
    (write : α → Json) (table : Table String α)
    : (record (table.entries.map (fun entry => (entry.1, write entry.2)))).toTable? (depth + 1) read
        = some table
      ↔ ∀ entry ∈ table.entries, read depth (write entry.2) = some entry.2 := by
  have kept (entry other : String × α) (found : readEntry depth read write entry = some other)
      : other.1 = entry.1 := by
    obtain ⟨_, _, rfl⟩ := Option.map_eq_some_iff.mp found
    rfl
  have self (entry : String × α)
      : readEntry depth read write entry = some entry ↔ read depth (write entry.2) = some entry.2 := by
    rw [readEntry, Option.map_eq_some_iff]
    constructor
    · rintro ⟨value, found, same⟩
      rw [found, ← same]
    · intro found
      exact ⟨entry.2, found, rfl⟩
  simp only [← self, ← mapM_eq_self_iff]
  rw [toTable?_record, Option.map_eq_some_iff]
  constructor
  · rintro ⟨entries, founds, made⟩
    have keys : entries.map (·.1) = table.keys := map_eq_of_mapM kept founds
    rwa [(Table.ofList_eq_iff keys).mp made] at founds
  · intro founds
    exact ⟨_, founds, (Table.ofList_eq_iff rfl).mpr rfl⟩

/-- What is written of a list is read back exactly where each of its items is. -/
theorem toList?_array_eq_some_iff {α : Type} (depth : Nat) (read : Nat → Json → Option α)
    (write : α → Json) (items : List α)
    : (Json.array (items.map write)).toList? (depth + 1) read = some items
      ↔ ∀ item ∈ items, read depth (write item) = some item := by
  rw [toList?, mapM_eq_some_iff, List.forall₂_map_left_iff, List.forall₂_same]

/-- How far something is given back by its document: as what it is, or as something at all. -/
structure GivesBack {α : Type} (found : Option α) (original : α) (lasts isRead : Bool) : Prop where
  same : found = some original ↔ lasts = true
  some : found.isSome = true ↔ isRead = true

section GivesBack

variable {α β : Type} {depth : Nat} {read : Nat → Json → Option α} {write : α → Json}
  {lasts isRead : α → Bool}

/-- What is made of something tells it apart, so it is given back as far. -/
theorem GivesBack.map {found : Option α} {original : α} {lasts isRead : Bool}
    (back : GivesBack found original lasts isRead) {make : α → β}
    (apart : ∀ left right, make left = make right → left = right)
    : GivesBack (found.map make) (make original) lasts isRead := by
  refine ⟨?_, by rw [Option.isSome_map, back.some]⟩
  rw [← back.same, Option.map_eq_some_iff]
  constructor
  · rintro ⟨other, found, made⟩
    rw [found, apart _ _ made]
  · intro found
    exact ⟨original, found, rfl⟩

/-- A list is given back as far as its items are. -/
theorem GivesBack.list {items : List α}
    (each : ∀ item ∈ items, GivesBack (read depth (write item)) item (lasts item) (isRead item))
    : GivesBack ((Json.array (items.map write)).toList? (depth + 1) read) items (items.all lasts)
        (items.all isRead) := by
  constructor
  · rw [toList?_array_eq_some_iff, List.all_eq_true]
    exact forall₂_congr (fun item inside => (each item inside).same)
  · rw [toList?, List.mapM_map, isSome_mapM_iff, List.all_eq_true]
    exact forall₂_congr (fun item inside => (each item inside).some)

/-- A table is given back as far as its values are. -/
theorem GivesBack.table {table : Table String α}
    (each : ∀ value ∈ table.values,
      GivesBack (read depth (write value)) value (lasts value) (isRead value))
    : GivesBack
        ((record (table.entries.map (fun entry => (entry.1, write entry.2)))).toTable? (depth + 1) read)
        table (table.values.all lasts) (table.values.all isRead) := by
  have each : ∀ entry ∈ table.entries,
      GivesBack (read depth (write entry.2)) entry.2 (lasts entry.2) (isRead entry.2) :=
    fun entry inside => each _ (List.mem_map_of_mem inside)
  rw [Table.values, List.all_map, List.all_map]
  constructor
  · rw [toTable?_record_eq_some_iff, List.all_eq_true]
    exact forall₂_congr (fun entry inside => (each entry inside).same)
  · rw [toTable?_record, Option.isSome_map, isSome_mapM_iff, List.all_eq_true]
    refine forall₂_congr (fun entry inside => ?_)
    rw [readEntry, Option.isSome_map]
    exact (each entry inside).some

end GivesBack

end Json

end EntityStore
