/-! Finite maps kept in ascending key order.
A table is its list of entries together with the fact that their keys ascend, so two tables with
the same look-ups are the same table and every walk over a table meets its keys in order.
-/

namespace EntityStore

open Std

-----------------------------------------------------------------------------------------
-- Entries in ascending key order
-----------------------------------------------------------------------------------------

/-- The keys of the entries ascend strictly. -/
def Ascending [Ord κ] (entries : List (κ × α)) : Prop :=
  entries.Pairwise (fun a b => compare a.1 b.1 = .lt)

instance [Ord κ] (entries : List (κ × α)) : Decidable (Ascending entries) :=
  inferInstanceAs (Decidable (entries.Pairwise _))

namespace Entries

/-- The value at a key of an ascending list of entries. -/
def find? [DecidableEq κ] (key : κ) : List (κ × α) → Option α
  | [] => none
  | (k, v) :: rest => if key = k then some v else find? key rest

/-- Puts a value at a key, over the value that stands there. -/
def insert [Ord κ] (key : κ) (value : α) : List (κ × α) → List (κ × α)
  | [] => [(key, value)]
  | (k, v) :: rest =>
      match compare key k with
      | .lt => (key, value) :: (k, v) :: rest
      | .eq => (key, value) :: rest
      | .gt => (k, v) :: insert key value rest

/-- Removes the entry at a key. -/
def erase [DecidableEq κ] (key : κ) (entries : List (κ × α)) : List (κ × α) :=
  entries.filter (fun entry => key ≠ entry.1)

variable {entries : List (κ × α)} {key k : κ} {value : α}

theorem mem_insert [Ord κ] {entry : κ × α} (h : entry ∈ insert key value entries)
    : entry = (key, value) ∨ entry ∈ entries := by
  induction entries with
  | nil => simpa [insert] using h
  | cons head rest ih =>
      obtain ⟨k, v⟩ := head
      simp only [insert] at h
      split at h
      · simpa using h
      · rcases List.mem_cons.mp h with h | h
        · exact Or.inl h
        · exact Or.inr (List.mem_cons_of_mem _ h)
      · rcases List.mem_cons.mp h with h | h
        · exact Or.inr (h ▸ List.mem_cons_self)
        · exact (ih h).imp_right (List.mem_cons_of_mem _)

theorem find?_none [DecidableEq κ] (h : ∀ entry ∈ entries, key ≠ entry.1)
    : find? key entries = none := by
  induction entries with
  | nil => rfl
  | cons head rest ih =>
      simp only [find?, h head List.mem_cons_self, if_false]
      exact ih (fun entry he => h entry (List.mem_cons_of_mem _ he))

theorem find?_erase [DecidableEq κ]
    : find? k (erase key entries) = if k = key then none else find? k entries := by
  by_cases hk : k = key
  · subst hk
    simp only [if_true]
    refine find?_none (fun entry he => ?_)
    simpa [erase] using (List.mem_filter.mp he).2
  · simp only [hk, if_false]
    induction entries with
    | nil => rfl
    | cons head rest ih =>
        by_cases hh : key = head.1
        · have : k ≠ head.1 := fun e => hk (e.trans hh.symm)
          simpa [erase, hh, find?, this] using ih
        · simp only [erase, List.filter_cons, ne_eq, hh, not_false_eq_true, decide_true,
            if_true, find?] at ih ⊢
          rw [ih]

theorem ascending_erase [Ord κ] [DecidableEq κ] (h : Ascending entries)
    : Ascending (erase key entries) :=
  h.sublist List.filter_sublist

section Lawful

variable [Ord κ] [TransOrd κ] [LawfulEqOrd κ]

theorem ascending_insert (h : Ascending entries) : Ascending (insert key value entries) := by
  induction entries with
  | nil => simp [insert, Ascending]
  | cons head rest ih =>
      obtain ⟨k, v⟩ := head
      obtain ⟨hk, hr⟩ := List.pairwise_cons.mp h
      simp only [insert]
      split
      · next hc =>
          refine List.pairwise_cons.mpr ⟨fun entry he => ?_, h⟩
          rcases List.mem_cons.mp he with rfl | he
          · exact hc
          · exact TransCmp.lt_trans hc (hk entry he)
      · next hc =>
          have : key = k := LawfulEqCmp.eq_of_compare hc
          subst this
          exact List.pairwise_cons.mpr ⟨hk, hr⟩
      · next hc =>
          refine List.pairwise_cons.mpr ⟨fun entry he => ?_, ih hr⟩
          rcases mem_insert he with rfl | he
          · exact OrientedCmp.gt_iff_lt.mp hc
          · exact hk entry he

variable [DecidableEq κ]

omit [TransOrd κ] in
theorem find?_insert
    : find? k (insert key value entries)
        = if k = key then some value else find? k entries := by
  induction entries with
  | nil => rfl
  | cons head rest ih =>
      obtain ⟨k', v⟩ := head
      simp only [insert]
      split
      · simp [find?]
      · next hc =>
          have : key = k' := LawfulEqCmp.eq_of_compare hc
          subst this
          by_cases hk : k = key <;> simp [find?, hk]
      · next hc =>
          simp only [find?, ih]
          by_cases hk : k = key
          · subst hk
            have : k ≠ k' := fun e => by subst e; simp [ReflOrd.compare_self] at hc
            simp [this]
          · simp [hk]

omit [TransOrd κ] in
theorem find?_eq_some_iff (h : Ascending entries)
    : find? key entries = some value ↔ (key, value) ∈ entries := by
  induction entries with
  | nil => simp [find?]
  | cons head rest ih =>
      obtain ⟨k, v⟩ := head
      obtain ⟨hk, hr⟩ := List.pairwise_cons.mp h
      simp only [find?, List.mem_cons, Prod.mk.injEq]
      by_cases he : key = k
      · subst he
        simp only [if_true, Option.some.injEq, true_and]
        constructor
        · exact fun e => Or.inl e.symm
        · intro given
          rcases given with e | hm
          · exact e.symm
          · have := hk _ hm
            simp [ReflOrd.compare_self] at this
      · simp [he, ih hr]

theorem ext_find? {left right : List (κ × α)} (hl : Ascending left) (hr : Ascending right)
    (h : ∀ key, find? key left = find? key right)
    : left = right := by
  have hm : ∀ entry, entry ∈ left ↔ entry ∈ right := fun ⟨key, value⟩ => by
    rw [← find?_eq_some_iff hl, ← find?_eq_some_iff hr, h]
  have asymm : ∀ a b : κ × α, compare a.1 b.1 = .lt → compare b.1 a.1 = .lt → a = b :=
    fun a b hab hba => by simp [OrientedCmp.gt_iff_lt.mpr hab] at hba
  induction left generalizing right with
  | nil =>
      cases right with
      | nil => rfl
      | cons head rest => simpa using (hm head).mpr List.mem_cons_self
  | cons a left ih =>
      cases right with
      | nil => simpa using (hm a).mp List.mem_cons_self
      | cons b right =>
          obtain ⟨ha, hl'⟩ := List.pairwise_cons.mp hl
          obtain ⟨hb, hr'⟩ := List.pairwise_cons.mp hr
          have hab : a = b := by
            rcases List.mem_cons.mp ((hm a).mp List.mem_cons_self) with e | h1
            · exact e
            rcases List.mem_cons.mp ((hm b).mpr List.mem_cons_self) with e | h2
            · exact e.symm
            exact asymm a b (ha b h2) (hb a h1)
          subst hab
          have hn : ∀ entry ∈ left, entry ≠ a := fun entry he e => by
            have := ha entry he
            simp [e, ReflOrd.compare_self] at this
          have hn' : ∀ entry ∈ right, entry ≠ a := fun entry he e => by
            have := hb entry he
            simp [e, ReflOrd.compare_self] at this
          have hm' : ∀ entry, entry ∈ left ↔ entry ∈ right := fun entry => by
            have := hm entry
            simp only [List.mem_cons] at this
            constructor
            · exact fun he => (this.mp (Or.inr he)).resolve_left (hn entry he)
            · exact fun he => (this.mpr (Or.inr he)).resolve_left (hn' entry he)
          refine congrArg (a :: ·) (ih hl' hr' (fun key => ?_) hm')
          apply Option.ext
          intro value
          rw [find?_eq_some_iff hl', find?_eq_some_iff hr', hm']

end Lawful

end Entries

-----------------------------------------------------------------------------------------
-- Tables
-----------------------------------------------------------------------------------------

/-- A finite map, stored as its entries in strictly ascending key order. -/
structure Table (κ : Type u) (α : Type v) [Ord κ] where
  entries : List (κ × α)
  ascending : Ascending entries

namespace Table

variable [Ord κ] [DecidableEq κ]

instance [DecidableEq α] : DecidableEq (Table κ α) := fun a b =>
  if h : a.entries = b.entries then
    .isTrue (by cases a; cases b; simpa using h)
  else .isFalse (fun e => h (congrArg entries e))

/-- The table without entries. -/
def empty : Table κ α := ⟨[], List.Pairwise.nil⟩

instance : Inhabited (Table κ α) := ⟨empty⟩

/-- The value at a key. -/
def get? (table : Table κ α) (key : κ) : Option α :=
  Entries.find? key table.entries

/-- Some value stands at the key. -/
def contains (table : Table κ α) (key : κ) : Bool :=
  (table.get? key).isSome

/-- The keys in ascending order. -/
def keys (table : Table κ α) : List κ :=
  table.entries.map (·.1)

/-- The values in the order of their keys. -/
def values (table : Table κ α) : List α :=
  table.entries.map (·.2)

/-- The table without the entry at a key. -/
def erase [TransOrd κ] [LawfulEqOrd κ] (table : Table κ α) (key : κ) : Table κ α :=
  ⟨Entries.erase key table.entries, Entries.ascending_erase table.ascending⟩

/-- The table with a value at a key, over the value that stands there. -/
def insert [TransOrd κ] [LawfulEqOrd κ] (table : Table κ α) (key : κ) (value : α)
    : Table κ α :=
  ⟨Entries.insert key value table.entries, Entries.ascending_insert table.ascending⟩

/-- Puts a value at a key, or removes the entry there. -/
def set [TransOrd κ] [LawfulEqOrd κ] (table : Table κ α) (key : κ) : Option α → Table κ α
  | some value => table.insert key value
  | none => table.erase key

/-- The table of a list of entries, where the last entry of a key counts. -/
def ofList [TransOrd κ] [LawfulEqOrd κ] (entries : List (κ × α)) : Table κ α :=
  entries.foldl (fun table entry => table.insert entry.1 entry.2) empty

/-- The table with every value passed through a function of its entry, where no result drops
the entry. -/
def filterMap (f : κ → α → Option β) (table : Table κ α) : Table κ β :=
  ⟨table.entries.filterMap (fun entry => (f entry.1 entry.2).map (entry.1, ·)), by
    refine List.Pairwise.filterMap _ ?_ table.ascending
    intro a b hab a' ha' b' hb'
    obtain ⟨_, _, rfl⟩ := Option.map_eq_some_iff.mp ha'
    obtain ⟨_, _, rfl⟩ := Option.map_eq_some_iff.mp hb'
    exact hab⟩

@[simp] theorem get?_empty (key : κ) : (empty : Table κ α).get? key = none := rfl

section Lawful

variable [TransOrd κ] [LawfulEqOrd κ]

theorem get?_insert (table : Table κ α) (key k : κ) (value : α)
    : (table.insert key value).get? k = if k = key then some value else table.get? k :=
  Entries.find?_insert

theorem get?_erase (table : Table κ α) (key k : κ)
    : (table.erase key).get? k = if k = key then none else table.get? k :=
  Entries.find?_erase

theorem get?_set (table : Table κ α) (key k : κ) (value : Option α)
    : (table.set key value).get? k = if k = key then value else table.get? k := by
  cases value with
  | none => exact get?_erase table key k
  | some value => exact get?_insert table key k value

omit [TransOrd κ] in
theorem get?_eq_some_iff {table : Table κ α} {key : κ} {value : α}
    : table.get? key = some value ↔ (key, value) ∈ table.entries :=
  Entries.find?_eq_some_iff table.ascending

/-- Two tables with the same look-ups are the same table. -/
theorem ext_get? {left right : Table κ α} (h : ∀ key, left.get? key = right.get? key)
    : left = right := by
  have := Entries.ext_find? left.ascending right.ascending h
  cases left; cases right
  simpa using this

omit [TransOrd κ] in
theorem mem_values_iff {table : Table κ α} {value : α}
    : value ∈ table.values ↔ ∃ key, table.get? key = some value := by
  simp only [values, List.mem_map, get?_eq_some_iff]
  constructor
  · intro given
    obtain ⟨⟨key, _⟩, member, rfl⟩ := given
    exact ⟨key, member⟩
  · intro given
    obtain ⟨key, member⟩ := given
    exact ⟨(key, value), member, rfl⟩

/-- Putting back what stands at a key changes nothing. -/
theorem set_get? (table : Table κ α) (key : κ) : table.set key (table.get? key) = table := by
  refine ext_get? (fun k => ?_)
  rw [get?_set]
  split
  · next same => rw [same]
  · rfl

omit [TransOrd κ] in
theorem get?_filterMap (f : κ → α → Option β) (table : Table κ α) (key : κ)
    : (table.filterMap f).get? key = (table.get? key).bind (f key) := by
  apply Option.ext
  intro value
  rw [get?_eq_some_iff, Option.bind_eq_some_iff]
  simp only [filterMap, List.mem_filterMap, Option.map_eq_some_iff]
  constructor
  · intro given
    obtain ⟨⟨k, v⟩, member, value', found, same⟩ := given
    obtain ⟨rfl, rfl⟩ := Prod.mk.inj same
    exact ⟨v, get?_eq_some_iff.mpr member, found⟩
  · intro given
    obtain ⟨v, member, found⟩ := given
    exact ⟨(key, v), get?_eq_some_iff.mp member, value, found, rfl⟩

end Lawful

end Table

end EntityStore
