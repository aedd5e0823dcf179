import EntityStore.Proofs.Json.Fields
import EntityStore.Proofs.Json.ReadBack
import EntityStore.Proofs.Number.Lasting
import EntityStore.Proofs.Timestamp.ReadBack
import EntityStore.Value.Json

/-! Which values a document gives back.
Truth values, whole numbers and texts are given back in any case. A floating point number is given back where
its literal stands for it, a timestamp where its text names it, and lists are given back as deep as documents
are read.
-/

namespace EntityStore

open Json Number

-----------------------------------------------------------------------------------------
-- Demands on numbers and timestamps
-----------------------------------------------------------------------------------------

/-- What is asked of the floating point numbers and timestamps of a value. -/
structure Demand where
  single : Single → Bool
  double : Double → Bool
  timestamp : Timestamp → Bool

namespace Demand

/-- The literals of numbers stand for the numbers, and the texts of timestamps name them. -/
def lasts : Demand := ⟨Single.lasts, Double.lasts, Timestamp.lasts⟩

/-- The literals of numbers stand for some numbers. -/
def isRead : Demand := ⟨Single.isRead, Double.isRead, fun _ => true⟩

/-- The numbers are finite. -/
def isFinite : Demand := ⟨(·.dataText?.isSome), (·.dataText?.isSome), fun _ => true⟩

/-- The literals of numbers show few digits, and the fractions of timestamps are less than a second. -/
def isShort : Demand := ⟨Single.isPlain, Double.isShort, (·.nanos < 1000000000)⟩

/-- What meets one demand meets another one. -/
structure Implies (strong weak : Demand) : Prop where
  single : ∀ x, strong.single x = true → weak.single x = true
  double : ∀ x, strong.double x = true → weak.double x = true
  timestamp : ∀ t, strong.timestamp t = true → weak.timestamp t = true

/-- Numbers with few digits are given back, and so are timestamps with less than a second of nanoseconds. -/
theorem lasts_of_isShort : isShort.Implies lasts :=
  ⟨fun _ => Single.lasts_of_isPlain, fun _ => Double.lasts_of_isShort,
    fun _ small => Bool.or_eq_true_iff.mpr (Or.inl small)⟩

/-- Only finite numbers are read at all. -/
theorem isFinite_of_isRead : isRead.Implies isFinite :=
  ⟨fun _ => Single.isSome_dataText?_of_isRead, fun _ => Double.isSome_dataText?_of_isRead,
    fun _ _ => rfl⟩

end Demand

namespace Value

mutual
/-- The floating point numbers and timestamps of a value meet a demand, and its lists are nested at most to a
number of levels. -/
def meets (demand : Demand) : Nat → Value → Bool
  | _, .bool _ => true
  | _, .integer _ => true
  | _, .float x => demand.single x
  | _, .double x => demand.double x
  | _, .string _ => true
  | _, .timestamp t => demand.timestamp t
  | 0, .list _ => false
  | levels + 1, .list items => allMeet demand levels items

/-- All values of a list meet a demand. -/
def allMeet (demand : Demand) : Nat → List Value → Bool
  | _, [] => true
  | levels, item :: rest => meets demand levels item && allMeet demand levels rest
end

theorem allMeet_eq (demand : Demand) (levels : Nat) (items : List Value)
    : allMeet demand levels items = items.all (·.meets demand levels) := by
  induction items with
  | nil => rfl
  | cons item rest ih => rw [allMeet, ih, List.all_cons]

/-- What meets a demand meets the demands that it implies.
Witness: induction on the levels.
-/
theorem meets_of_implies {strong weak : Demand} (implies : strong.Implies weak) {levels : Nat}
    {value : Value} (strongly : value.meets strong levels = true)
    : value.meets weak levels = true := by
  induction levels generalizing value with
  | zero =>
      cases value with
      | float x => exact implies.single x strongly
      | double x => exact implies.double x strongly
      | timestamp t => exact implies.timestamp t strongly
      | list items => contradiction
      | _ => rfl
  | succ levels ih =>
      cases value with
      | float x => exact implies.single x strongly
      | double x => exact implies.double x strongly
      | timestamp t => exact implies.timestamp t strongly
      | list items =>
          rw [meets, allMeet_eq, List.all_eq_true] at strongly ⊢
          exact fun item inside => ih (strongly item inside)
      | _ => rfl

-----------------------------------------------------------------------------------------
-- Documents of values
-----------------------------------------------------------------------------------------

theorem allToJson_eq (items : List Value) : allToJson items = items.map toJson := by
  induction items with
  | nil => rfl
  | cons item rest ih => rw [allToJson, ih, List.map_cons]

theorem written_tagged (kind : String) {content : Json} (written : Json.Written content)
    : Json.Written (tagged kind content) := by
  refine .record (fun field stands => ?_)
  rcases List.mem_pair.mp stands with rfl | rfl
  · exact .text kind
  · exact written

mutual
/-- Every value has a document with a text of its own. -/
theorem written_toJson : ∀ value : Value, Json.Written value.toJson
  | .bool b => written_tagged "bool" (.bool b)
  | .integer i => written_tagged "integer" (.number (isLiteral_integerText i.toInt))
  | .float x => by
      refine written_tagged "float" ?_
      unfold Json.ofSingle
      split
      · next literal => exact .number (Number.isLiteral_of_dataText? literal)
      · exact .null
  | .double x => by
      refine written_tagged "double" ?_
      unfold Json.ofDouble
      split
      · next literal => exact .number (Number.isLiteral_of_dataText? literal)
      · exact .null
  | .string s => written_tagged "string" (.text s)
  | .timestamp t => written_tagged "timestamp" (.text t.dataText)
  | .list items => written_tagged "list" (.array (written_allToJson items))

theorem written_allToJson : ∀ (items : List Value), ∀ json ∈ allToJson items, Json.Written json
  | [], _, inside => by cases inside
  | item :: rest, json, inside => by
      rcases List.mem_cons.mp inside with rfl | later
      · exact written_toJson item
      · exact written_allToJson rest json later
end

/-- The kind and the content of a value are read from its document. -/
theorem tagAndContent?_tagged (depth : Nat) (kind : String) (content : Json)
    : tagAndContent? (depth + 1) (tagged kind content) = some (kind, content) := by
  have fields := toFields?_record depth [("type", .text kind), ("value", content)]
    (show ["type", "value"].Nodup by decide)
  unfold tagAndContent? tagged
  rw [show ["type", "value"] = [("type", Json.text kind), ("value", content)].map (·.1) from rfl, fields]
  rfl

/-- The lowest level of a document holds no lists. -/
theorem ofJson?_one (kind : String) (content : Json)
    : ofJson? 1 (tagged kind content) = readContent? kind (fun _ => none) content := by
  rw [ofJson?, tagAndContent?_tagged 0]
  rfl

/-- The items of a list are read two levels below it. -/
theorem ofJson?_add_two (depth : Nat) (kind : String) (content : Json)
    : ofJson? (depth + 2) (tagged kind content)
      = readContent? kind (toList? (depth + 1) (fun _ => ofJson? depth)) content := by
  rw [ofJson?, tagAndContent?_tagged (depth + 1)]
  rfl

/-- What is no list is read from its content as far as its number or timestamp is. -/
theorem givesBack_readContent? {value : Value} (noList : ¬ ∃ items, value = .list items) (levels : Nat)
    : ∃ kind content,
        value.toJson = tagged kind content
        ∧ ∀ readItems,
            GivesBack (readContent? kind readItems content) value (value.meets .lasts levels)
              (value.meets .isRead levels) := by
  cases value with
  | bool b =>
      exact ⟨_, _, rfl, fun _ => by
        constructor <;> simp [readContent?, toBool?, meets]⟩
  | integer i =>
      exact ⟨_, _, rfl, fun _ => by
        constructor <;> simp [readContent?, toInt64?_ofInt, meets]⟩
  | float x =>
      exact ⟨_, _, rfl, fun _ => by
        constructor <;>
          simp [readContent?, meets, Demand.lasts, Demand.isRead, Single.lasts, Single.isRead]⟩
  | double x =>
      exact ⟨_, _, rfl, fun _ => by
        constructor <;>
          simp [readContent?, meets, Demand.lasts, Demand.isRead, Double.lasts, Double.isRead]⟩
  | string s =>
      exact ⟨_, _, rfl, fun _ => by
        constructor <;> simp [readContent?, toText?, text, meets]⟩
  | timestamp t =>
      exact ⟨_, _, rfl, fun _ => by
        constructor <;>
          simp [readContent?, toText?, text, Timestamp.read?_dataText, Timestamp.named_eq_iff, meets,
            Demand.lasts, Demand.isRead]⟩
  | list items => exact absurd ⟨items, rfl⟩ noList

/-- A value is read from its document as far as its numbers and timestamps are.
Witness: induction on the levels; a list takes two levels of its document.
-/
theorem givesBack_toJson (levels : Nat) (value : Value)
    : GivesBack (ofJson? (2 * levels + 1) value.toJson) value (value.meets .lasts levels)
        (value.meets .isRead levels) := by
  induction levels generalizing value with
  | zero =>
      by_cases isList : ∃ items, value = .list items
      · obtain ⟨items, rfl⟩ := isList
        rw [toJson, ofJson?_one]
        constructor <;> simp [readContent?, meets]
      · obtain ⟨kind, content, written, read⟩ := givesBack_readContent? isList 0
        rw [written, ofJson?_one]
        exact read _
  | succ levels ih =>
      by_cases isList : ∃ items, value = .list items
      · obtain ⟨items, rfl⟩ := isList
        have each : GivesBack
            ((Json.array (items.map toJson)).toList? (2 * levels + 2) (fun _ => ofJson? (2 * levels + 1)))
            items (items.all (·.meets .lasts levels)) (items.all (·.meets .isRead levels)) :=
          .list (fun item _ => ih item)
        rw [toJson, allToJson_eq, meets, meets, allMeet_eq, allMeet_eq]
        change GivesBack (ofJson? (2 * levels + 1 + 2) _) _ _ _
        rw [ofJson?_add_two]
        exact each.map (fun _ _ same => Value.list.inj same)
      · obtain ⟨kind, content, written, read⟩ := givesBack_readContent? isList (levels + 1)
        rw [written]
        change GivesBack (ofJson? (2 * levels + 1 + 2) _) _ _ _
        rw [ofJson?_add_two]
        exact read _

end Value

end EntityStore
