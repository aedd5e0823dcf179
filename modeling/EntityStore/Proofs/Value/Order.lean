import EntityStore.Proofs.Number.Order
import EntityStore.Value.Basic

/-! The order of values.
Comparing the other way round turns the order around. Whole numbers are compared exactly with each other,
but after rounding with floating point numbers, so the order is passed on from value to value unless two
different whole numbers meet a floating point number that both are rounded to.
-/

namespace EntityStore

open Number Std

-----------------------------------------------------------------------------------------
-- The other way round
-----------------------------------------------------------------------------------------

theorem Number.Datum.compare?_swap (x y : Datum) : y.compare? x = (x.compare? y).map Ordering.swap := by
  rw [compare?_eq, compare?_eq]
  cases x.place? with
  | none => cases y.place? <;> rfl
  | some place =>
      cases y.place? with
      | none => rfl
      | some place' => exact congrArg some OrientedCmp.eq_swap

instance : TransCmp Timestamp.order :=
  inferInstanceAs (TransCmp (compareLex (compareOn Timestamp.seconds) (compareOn Timestamp.nanos)))

namespace Value

mutual
/-- Comparing the other way round turns the order around. -/
theorem compare?_swap (a b : Value) : b.compare? a = (a.compare? b).map Ordering.swap := by
  cases a <;> cases b <;> simp only [compare?, numeric?, Option.map_some, Option.map_none]
  case bool.bool a b => exact congrArg some OrientedOrd.eq_swap
  case string.string a b => exact congrArg some OrientedOrd.eq_swap
  case integer.integer a b => exact congrArg some OrientedOrd.eq_swap
  case timestamp.timestamp a b =>
    exact congrArg some (show b.order a = (a.order b).swap from OrientedCmp.eq_swap)
  case list.list as bs => exact compareAll?_swap as bs
  all_goals exact Datum.compare?_swap _ _

theorem compareAll?_swap (as bs : List Value)
    : compareAll? bs as = (compareAll? as bs).map Ordering.swap := by
  cases as with
  | nil => cases bs <;> rfl
  | cons a as =>
      cases bs with
      | nil => rfl
      | cons b bs =>
          rw [compareAll?, compareAll?, compare?_swap a b]
          cases a.compare? b with
          | none => rfl
          | some order =>
              cases order with
              | eq => exact compareAll?_swap as bs
              | _ => rfl
end

/-- The first value comes before the second one, or they have the same place. -/
def AtMost (a b : Value) : Prop :=
  ∃ order, a.compare? b = some order ∧ order.isLE = true

/-- From the first value to the third one, the order is passed on through the second one. -/
def Passes (a b c : Value) : Prop :=
  a.AtMost b → b.AtMost c → a.AtMost c

variable {a b c : Value}

theorem atMost_of_lt (before : a.compare? b = some .lt) : a.AtMost b :=
  ⟨_, before, rfl⟩

theorem atMost_of_eq (alike : a.compare? b = some .eq) : a.AtMost b :=
  ⟨_, alike, rfl⟩

theorem atMost_iff : a.AtMost b ↔ a.compare? b = some .lt ∨ a.compare? b = some .eq := by
  constructor
  · rintro ⟨order, compared, le⟩
    cases order with
    | lt => exact Or.inl compared
    | eq => exact Or.inr compared
    | gt => cases le
  · rintro (before | alike)
    · exact atMost_of_lt before
    · exact atMost_of_eq alike

theorem compare?_eq_comm : a.compare? b = some .eq ↔ b.compare? a = some .eq := by
  have eq_comm {a b : Value} (alike : a.compare? b = some .eq) : b.compare? a = some .eq := by
    rw [compare?_swap, alike]
    rfl
  exact ⟨eq_comm, eq_comm⟩

/-- What comes before another value is not passed by it. -/
theorem not_atMost_of_lt (before : a.compare? b = some .lt) : ¬ b.AtMost a := by
  rintro ⟨order, compared, le⟩
  rw [compare?_swap, before] at compared
  cases compared
  cases le

theorem lt_of_not_eq (order : a.AtMost b) (other : ¬ b.AtMost a) : a.compare? b = some .lt := by
  rcases atMost_iff.mp order with before | alike
  · exact before
  · exact absurd (atMost_of_eq (compare?_eq_comm.mp alike)) other

theorem Passes.lt_of_lt (passes : Passes a b c) (back : Passes b c a)
    (first : a.compare? b = some .lt) (second : b.AtMost c)
    : a.compare? c = some .lt :=
  lt_of_not_eq (passes (atMost_of_lt first) second)
    (fun other => not_atMost_of_lt first (back second other))

theorem Passes.lt_of_atMost (passes : Passes a b c) (back : Passes c a b)
    (first : a.AtMost b) (second : b.compare? c = some .lt)
    : a.compare? c = some .lt :=
  lt_of_not_eq (passes first (atMost_of_lt second))
    (fun other => not_atMost_of_lt second (back other first))

theorem Passes.eq (passes : Passes a b c) (passes' : Passes c b a)
    (first : a.compare? b = some .eq) (second : b.compare? c = some .eq)
    : a.compare? c = some .eq := by
  have there := passes (atMost_of_eq first) (atMost_of_eq second)
  have back := passes' (atMost_of_eq (compare?_eq_comm.mp second)) (atMost_of_eq (compare?_eq_comm.mp first))
  exact (atMost_iff.mp there).resolve_left (fun before => not_atMost_of_lt before back)

-----------------------------------------------------------------------------------------
-- Numbers
-----------------------------------------------------------------------------------------

/-- What a floating point number stands for. -/
def floating? : Value → Option Datum
  | .float x => some x.datum
  | .double x => some x.datum
  | _ => none

/-- The place of a number, where a whole number has that of the number it is rounded to. -/
def place? (value : Value) : Option (Int × Int) :=
  value.numeric?.bind Datum.place?

theorem numeric?_of_floating? {x : Datum} (floating : a.floating? = some x) : a.numeric? = some x := by
  cases a with
  | float y => exact floating
  | double y => exact floating
  | _ => cases floating

/-- A floating point number is compared with what a value stands for as a number. -/
theorem compare?_eq_numeric {x : Datum} (floating : a.floating? = some x) (b : Value)
    : a.compare? b = b.numeric?.bind x.compare? := by
  cases a <;> cases floating <;> cases b <;> rfl

/-- A floating point number is compared by its place. -/
theorem compare?_eq_place {x : Datum} (floating : a.floating? = some x) (b : Value)
    : a.compare? b = a.place?.bind (fun place => b.place?.map (Datum.placeOrder place)) := by
  rw [compare?_eq_numeric floating, place?, place?, numeric?_of_floating? floating, Option.bind_some]
  cases b.numeric? with
  | none => cases x.place? <;> rfl
  | some y => exact x.compare?_eq y

/-- The place of a number is at most that of another number. -/
def PlaceAtMost (a b : Value) : Prop :=
  ∃ p q, a.place? = some p ∧ b.place? = some q ∧ (Datum.placeOrder p q).isLE = true

theorem PlaceAtMost.trans (first : PlaceAtMost a b) (second : PlaceAtMost b c) : PlaceAtMost a c := by
  obtain ⟨p, q, place, place', order⟩ := first
  obtain ⟨q', r, same, place'', order'⟩ := second
  cases place'.symm.trans same
  exact ⟨p, r, place, place'', TransCmp.isLE_trans order order'⟩

/-- The order of two numbers, of which one is a floating point number, is that of their places. -/
theorem atMost_iff_place {x : Datum} (floating : a.floating? = some x ∨ b.floating? = some x)
    : a.AtMost b ↔ PlaceAtMost a b := by
  have compared : a.compare? b = a.place?.bind (fun p => b.place?.map (Datum.placeOrder p)) := by
    rcases floating with floating | floating
    · exact compare?_eq_place floating b
    · rw [compare?_swap b a, compare?_eq_place floating]
      cases a.place? with
      | none => cases b.place? <;> rfl
      | some p =>
          cases b.place? with
          | none => rfl
          | some q => exact congrArg some OrientedCmp.eq_swap.symm
  rw [AtMost, PlaceAtMost, compared]
  cases a.place? <;> cases b.place? <;> simp

/-- What is compared with a number is a number. -/
theorem isSome_numeric?_iff (order : a.AtMost b) : a.numeric?.isSome = b.numeric?.isSome := by
  obtain ⟨order, compared, _⟩ := order
  cases a <;> cases b <;> simp [compare?, numeric?] at compared ⊢

/-- A number is a whole or a floating point number. -/
theorem integer_or_floating (number : a.numeric?.isSome)
    : (∃ i, a = .integer i) ∨ ∃ x, a.floating? = some x := by
  cases a with
  | integer i => exact Or.inl ⟨i, rfl⟩
  | float x => exact Or.inr ⟨_, rfl⟩
  | double x => exact Or.inr ⟨_, rfl⟩
  | _ => cases number

theorem atMost_integer {i j : Int64} : AtMost (.integer i) (.integer j) ↔ i.toInt ≤ j.toInt := by
  rw [AtMost]
  simp only [compare?, Option.some.injEq, exists_eq_left', isLE_compare]

/-- Rounding keeps the order of numbers, though it may make different ones alike. -/
theorem AtMost.place (order : a.AtMost b) (number : a.numeric?.isSome) : PlaceAtMost a b := by
  rcases integer_or_floating number with ⟨i, rfl⟩ | ⟨x, floating⟩
  · rcases integer_or_floating (isSome_numeric?_iff order ▸ number) with ⟨j, rfl⟩ | ⟨y, floating⟩
    · obtain ⟨u, v, place, place', order⟩ :=
        Double.place?_ofInt (Int64.le_toInt i) (atMost_integer.mp order)
          (Int.le_of_lt (Int64.toInt_lt j))
      refine ⟨_, _, place, place', ?_⟩
      rw [Datum.placeOrder, compareLex, compareOn, compareOn, ReflOrd.compare_self]
      exact isLE_compare.mpr order
    · exact (atMost_iff_place (Or.inr floating)).mp order
  · exact (atMost_iff_place (Or.inl floating)).mp order

-----------------------------------------------------------------------------------------
-- Rounded whole numbers
-----------------------------------------------------------------------------------------

/-- Two different whole numbers are rounded to a value, which is a floating point number. -/
def Blurs (number : Value) (i j : Int64) : Prop :=
  i ≠ j
  ∧ ∃ x,
      number.floating? = some x
      ∧ (Double.ofInt i.toInt).datum.sameValue x = true
      ∧ (Double.ofInt j.toInt).datum.sameValue x = true

/-- Of three values two are different whole numbers and the third is a floating point number that both are
rounded to, either of the values themselves or at some place of nested lists that are alike so far.
-/
inductive Blurred : Value → Value → Value → Prop where
  | first {i j number} (blurs : Blurs number i j) : Blurred number (.integer i) (.integer j)
  | middle {i j number} (blurs : Blurs number i j) : Blurred (.integer i) number (.integer j)
  | last {i j number} (blurs : Blurs number i j) : Blurred (.integer i) (.integer j) number
  | head {a b c as bs cs} (blurred : Blurred a b c)
    : Blurred (.list (a :: as)) (.list (b :: bs)) (.list (c :: cs))
  | tail {a b c as bs cs} (left : a.looselyEquals b = true) (right : b.looselyEquals c = true)
      (outer : a.looselyEquals c = true) (blurred : Blurred (.list as) (.list bs) (.list cs))
    : Blurred (.list (a :: as)) (.list (b :: bs)) (.list (c :: cs))

theorem Blurs.symm {number : Value} {i j : Int64} (blurs : Blurs number i j) : Blurs number j i := by
  obtain ⟨ne, x, floating, first, second⟩ := blurs
  exact ⟨ne.symm, x, floating, second, first⟩

theorem looselyEquals_iff : a.looselyEquals b = true ↔ a.compare? b = some .eq :=
  decide_eq_true_iff

theorem looselyEquals_comm : a.looselyEquals b = true ↔ b.looselyEquals a = true := by
  rw [looselyEquals_iff, looselyEquals_iff, compare?_eq_comm]

theorem looselyEquals_integer {i j : Int64}
    : looselyEquals (.integer i) (.integer j) = true ↔ i = j := by
  rw [looselyEquals_iff, compare?, Option.some.injEq, LawfulEqCmp.compare_eq_iff_eq, Int64.toInt_inj]

/-- A floating point number is loosely equal to the whole numbers that are rounded to it. -/
theorem looselyEquals_integer_iff {x : Datum} (floating : a.floating? = some x) (i : Int64)
    : a.looselyEquals (.integer i) = true ↔ (Double.ofInt i.toInt).datum.sameValue x = true := by
  have compared : a.compare? (.integer i) = x.compare? (Double.ofInt i.toInt).datum :=
    compare?_eq_numeric floating _
  rw [looselyEquals_iff, compared, Datum.sameValue, Datum.compare?_swap x, decide_eq_true_iff]
  rcases x.compare? (Double.ofInt i.toInt).datum with _ | _ | _ | _ <;> simp

/-- A floating point number is loosely equal to both whole numbers that are rounded to it. -/
theorem Blurs.looselyEquals {number : Value} {i j : Int64} (blurs : Blurs number i j)
    : number.looselyEquals (.integer i) = true ∧ number.looselyEquals (.integer j) = true := by
  obtain ⟨_, x, floating, first, second⟩ := blurs
  exact ⟨(looselyEquals_integer_iff floating i).mpr first,
    (looselyEquals_integer_iff floating j).mpr second⟩

theorem blurred_cons {as bs cs : List Value}
    : Blurred (.list (a :: as)) (.list (b :: bs)) (.list (c :: cs))
      ↔ Blurred a b c
        ∨ a.looselyEquals b = true
          ∧ b.looselyEquals c = true
          ∧ a.looselyEquals c = true
          ∧ Blurred (.list as) (.list bs) (.list cs) := by
  constructor
  · intro blurred
    cases blurred with
    | head blurred => exact Or.inl blurred
    | tail left right outer blurred => exact Or.inr ⟨left, right, outer, blurred⟩
  · rintro (blurred | ⟨left, right, outer, blurred⟩)
    · exact .head blurred
    · exact .tail left right outer blurred

/-- It does not matter which value is the first one. -/
theorem Blurred.rotate (blurred : Blurred a b c) : Blurred b c a := by
  induction blurred with
  | first blurs => exact .last blurs
  | middle blurs => exact .first blurs.symm
  | last blurs => exact .middle blurs.symm
  | head _ ih => exact .head ih
  | tail left right outer _ ih =>
      exact .tail right (looselyEquals_comm.mp outer) (looselyEquals_comm.mp left) ih

/-- The values can be read backwards. -/
theorem Blurred.reverse (blurred : Blurred a b c) : Blurred c b a := by
  induction blurred with
  | first blurs => exact .last blurs.symm
  | middle blurs => exact .middle blurs.symm
  | last blurs => exact .first blurs.symm
  | head _ ih => exact .head ih
  | tail left right outer _ ih =>
      exact .tail (looselyEquals_comm.mp right) (looselyEquals_comm.mp left)
        (looselyEquals_comm.mp outer) ih

/-- Whole numbers with a floating point number in between have the order that it suggests, unless they are
both rounded to it.
-/
theorem atMost_of_between {i j : Int64} {x : Datum} (floating : b.floating? = some x)
    (clear : ¬ Blurs b i j) (first : AtMost (.integer i) b) (second : b.AtMost (.integer j))
    : AtMost (.integer i) (.integer j) := by
  by_contra behind
  have behind := Int.lt_of_not_ge (fun order => behind (atMost_integer.mpr order))
  have back := (atMost_integer.mpr (Int.le_of_lt behind)).place rfl
  have first := first.place rfl
  have second := second.place (by rw [numeric?_of_floating? floating]; rfl)
  -- All three have one place.
  have alike {k : Int64} (there : PlaceAtMost (.integer k) b) (back : PlaceAtMost b (.integer k))
      : (Double.ofInt k.toInt).datum.sameValue x = true := by
    have there := (atMost_iff_place (Or.inr floating)).mpr there
    have back := (atMost_iff_place (Or.inl floating)).mpr back
    have same := (atMost_iff.mp back).resolve_left (fun before => not_atMost_of_lt before there)
    exact (looselyEquals_integer_iff floating k).mp (looselyEquals_iff.mpr same)
  refine clear
    ⟨fun same => ?_, x, floating, alike first (second.trans back), alike (back.trans first) second⟩
  rw [same] at behind
  exact Int.lt_irrefl _ behind

/-- Numbers pass the order on unless two of them are rounded to the third. -/
theorem passes_of_number (number : a.numeric?.isSome) (clear : ¬ Blurred a b c) : Passes a b c := by
  intro first second
  have number' := isSome_numeric?_iff first ▸ number
  have number'' := isSome_numeric?_iff second ▸ number'
  have places := (first.place number).trans (second.place number')
  rcases integer_or_floating number with ⟨i, rfl⟩ | ⟨x, floating⟩
  · rcases integer_or_floating number'' with ⟨j, rfl⟩ | ⟨y, floating⟩
    · rcases integer_or_floating number' with ⟨k, rfl⟩ | ⟨x, floating⟩
      · exact atMost_integer.mpr (Int.le_trans (atMost_integer.mp first) (atMost_integer.mp second))
      · exact atMost_of_between floating (fun blurs => clear (.middle blurs)) first second
    · exact (atMost_iff_place (Or.inr floating)).mpr places
  · exact (atMost_iff_place (Or.inl floating)).mpr places

-----------------------------------------------------------------------------------------
-- All values
-----------------------------------------------------------------------------------------

/-- Lists that begin alike go on to be compared. -/
theorem atMost_cons {as bs : List Value}
    : AtMost (.list (a :: as)) (.list (b :: bs))
      ↔ a.compare? b = some .lt ∨ a.compare? b = some .eq ∧ AtMost (.list as) (.list bs) := by
  simp only [AtMost, compare?, compareAll?]
  cases a.compare? b with
  | none => simp
  | some order => cases order <;> simp

theorem atMost_nil (bs : List Value) : AtMost (.list []) (.list bs) := by
  cases bs with
  | nil => exact ⟨.eq, rfl, rfl⟩
  | cons b bs => exact ⟨.lt, rfl, rfl⟩

theorem not_atMost_nil (a : Value) (as : List Value) : ¬ AtMost (.list (a :: as)) (.list []) :=
  not_atMost_of_lt (a := .list []) rfl

/-- What is compared with a list is a list. -/
theorem AtMost.list {as : List Value} (order : AtMost (.list as) b) : ∃ bs, b = .list bs := by
  obtain ⟨order, compared, _⟩ := order
  cases b <;> simp [compare?, numeric?] at compared ⊢

/-- Values of a kind that is only compared with itself pass its order on. -/
theorem passes_of_kind {α : Type} (order : α → α → Ordering) [TransCmp order] {make : α → Value}
    (compared : ∀ x y, (make x).compare? (make y) = some (order x y))
    (closed : ∀ {x value found}, (make x).compare? value = some found → ∃ y, value = make y) (x : α)
    : Passes (make x) b c := by
  rintro ⟨_, first, le⟩ ⟨_, second, le'⟩
  obtain ⟨y, rfl⟩ := closed first
  obtain ⟨z, rfl⟩ := closed second
  rw [compared, Option.some.injEq] at first second
  subst first second
  exact ⟨_, compared x z, TransCmp.isLE_trans le le'⟩

/-- Lists pass their order on where their first items do, in every direction, and what follows does. -/
theorem passes_cons {as bs cs : List Value} (abc : Passes a b c) (bca : Passes b c a)
    (cab : Passes c a b) (cba : Passes c b a)
    (tails
      : a.compare? b = some .eq → b.compare? c = some .eq → a.compare? c = some .eq
        → Passes (.list as) (.list bs) (.list cs))
    : Passes (.list (a :: as)) (.list (b :: bs)) (.list (c :: cs)) := by
  intro first second
  rcases atMost_cons.mp first with before | ⟨alike, first⟩
  · have next : b.AtMost c := (atMost_cons.mp second).elim atMost_of_lt (fun given => atMost_of_eq given.1)
    exact atMost_cons.mpr (Or.inl (abc.lt_of_lt bca before next))
  · rcases atMost_cons.mp second with before | ⟨alike', second⟩
    · exact atMost_cons.mpr (Or.inl (abc.lt_of_atMost cab (atMost_of_eq alike) before))
    · have outer := abc.eq cba alike alike'
      exact atMost_cons.mpr (Or.inr ⟨outer, tails alike alike' outer first second⟩)

/-- Lists pass their order on where all smaller values do.
Witness: induction on the first list, where a place is only looked at if the lists are alike so far.
-/
theorem passes_of_lists {as bs cs : List Value}
    (smaller
      : ∀ x y z : Value,
          sizeOf x + sizeOf y + sizeOf z < sizeOf as + sizeOf bs + sizeOf cs
          → ¬ Blurred x y z → Passes x y z)
    (clear : ¬ Blurred (.list as) (.list bs) (.list cs))
    : Passes (.list as) (.list bs) (.list cs) := by
  induction as generalizing bs cs with
  | nil => exact fun _ _ => atMost_nil cs
  | cons a as ih =>
      match bs, cs with
      | [], _ => exact fun first => absurd first (not_atMost_nil a as)
      | b :: bs, [] => exact fun _ second => absurd second (not_atMost_nil b bs)
      | b :: bs, c :: cs =>
          have heads : ¬ Blurred a b c := fun blurred => clear (.head blurred)
          simp only [List.cons.sizeOf_spec] at smaller
          refine passes_cons (smaller a b c (by omega) heads)
            (smaller b c a (by omega) (fun blurred => heads blurred.rotate.rotate))
            (smaller c a b (by omega) (fun blurred => heads blurred.rotate))
            (smaller c b a (by omega) (fun blurred => heads blurred.reverse))
            (fun left right outer => ih (fun x y z less => smaller x y z (by omega)) (fun blurred => ?_))
          exact clear (.tail (looselyEquals_iff.mpr left) (looselyEquals_iff.mpr right)
            (looselyEquals_iff.mpr outer) blurred)

/-- The order is passed on from value to value unless two different whole numbers meet a number that both
are rounded to.
Witness: induction on the size of the values.
-/
theorem passes_of_not_blurred (a b c : Value) (clear : ¬ Blurred a b c) : Passes a b c := by
  induction size : sizeOf a + sizeOf b + sizeOf c using Nat.strongRecOn generalizing a b c with
  | ind n ih =>
      cases a with
      | integer i => exact passes_of_number rfl clear
      | float x => exact passes_of_number rfl clear
      | double x => exact passes_of_number rfl clear
      | bool x =>
          refine passes_of_kind compare (fun _ _ => rfl) (fun {_ value _} found => ?_) x
          cases value <;> simp [compare?, numeric?] at found ⊢
      | string x =>
          refine passes_of_kind compare (fun _ _ => rfl) (fun {_ value _} found => ?_) x
          cases value <;> simp [compare?, numeric?] at found ⊢
      | timestamp x =>
          refine passes_of_kind Timestamp.order (fun _ _ => rfl) (fun {_ value _} found => ?_) x
          cases value <;> simp [compare?, numeric?] at found ⊢
      | list as =>
          intro first second
          obtain ⟨bs, rfl⟩ := first.list
          obtain ⟨cs, rfl⟩ := second.list
          simp only [list.sizeOf_spec] at size
          exact passes_of_lists (fun x y z less clear => ih _ (by omega) x y z clear rfl) clear
            first second

-----------------------------------------------------------------------------------------
-- Chains of values
-----------------------------------------------------------------------------------------

theorem looselyEquals_cons {as bs : List Value}
    : looselyEquals (.list (a :: as)) (.list (b :: bs)) = true
      ↔ a.looselyEquals b = true ∧ looselyEquals (.list as) (.list bs) = true := by
  simp only [looselyEquals_iff, compare?, compareAll?]
  cases a.compare? b with
  | none => simp
  | some order => cases order <;> simp

/-- Of three values with rounded whole numbers, two are not loosely equal. -/
theorem Blurred.not_alike (blurred : Blurred a b c) (left : a.looselyEquals b = true)
    (right : b.looselyEquals c = true)
    : ¬ a.looselyEquals c = true := by
  intro outer
  induction blurred with
  | first blurs => exact blurs.1 (looselyEquals_integer.mp right)
  | middle blurs => exact blurs.1 (looselyEquals_integer.mp outer)
  | last blurs => exact blurs.1 (looselyEquals_integer.mp left)
  | head _ ih =>
      exact ih (looselyEquals_cons.mp left).1 (looselyEquals_cons.mp right).1
        (looselyEquals_cons.mp outer).1
  | tail _ _ _ _ ih =>
      exact ih (looselyEquals_cons.mp left).2 (looselyEquals_cons.mp right).2
        (looselyEquals_cons.mp outer).2

/-- What is loosely equal to one value is loosely equal, unless two different whole numbers are rounded. -/
theorem looselyEquals_trans_iff (left : a.looselyEquals b = true) (right : b.looselyEquals c = true)
    : a.looselyEquals c = true ↔ ¬ Blurred a b c := by
  constructor
  · exact fun outer blurred => blurred.not_alike left right outer
  · intro clear
    have passes := passes_of_not_blurred a b c clear
    have passes' := passes_of_not_blurred c b a (fun blurred => clear blurred.reverse)
    exact looselyEquals_iff.mpr
      (passes.eq passes' (looselyEquals_iff.mp left) (looselyEquals_iff.mp right))

theorem lt_trans_of_not_blurred (clear : ¬ Blurred a b c) (first : a.compare? b = some .lt)
    (second : b.compare? c = some .lt)
    : a.compare? c = some .lt :=
  (passes_of_not_blurred a b c clear).lt_of_lt
    (passes_of_not_blurred b c a (fun blurred => clear blurred.rotate.rotate)) first
    (atMost_of_lt second)

/-- Numbers that come one after the other are not rounded to each other. -/
theorem Blurred.not_ascending (blurred : Blurred a b c) (plain : a.attributeType?.isSome)
    (first : a.compare? b = some .lt)
    : ¬ b.compare? c = some .lt := by
  have unlike {a b : Value} (before : a.compare? b = some .lt) : ¬ a.looselyEquals b = true := by
    rw [looselyEquals_iff, before]
    nofun
  intro second
  cases blurred with
  | first blurs => exact unlike first blurs.looselyEquals.1
  | middle blurs => exact unlike second blurs.looselyEquals.2
  | last blurs => exact unlike second (looselyEquals_comm.mp blurs.looselyEquals.2)
  | head _ => cases plain
  | tail _ _ _ _ => cases plain

/-- The order of values is coherent but for the rounding of whole numbers. It turns around with the values.
What is loosely equal to one value is loosely equal, unless two different whole numbers at one place are
rounded to the floating point number there, and only then. What comes before a value comes before what
comes after it, always among values that are no lists, and else unless whole numbers are rounded so at some
place up to which the lists are alike.
-/
theorem compare?_coherent (a b c : Value)
    : b.compare? a = (a.compare? b).map Ordering.swap
      ∧ (a.looselyEquals b = true → b.looselyEquals c = true
          → (a.looselyEquals c = true ↔ ¬ Blurred a b c))
      ∧ (a.compare? b = some .lt → b.compare? c = some .lt
          → a.attributeType?.isSome = true ∨ ¬ Blurred a b c → a.compare? c = some .lt) := by
  refine ⟨compare?_swap a b, looselyEquals_trans_iff, fun first second given => ?_⟩
  have clear : ¬ Blurred a b c := fun blurred =>
    given.elim (fun plain => blurred.not_ascending plain first second) (fun clear => clear blurred)
  exact lt_trans_of_not_blurred clear first second

/-- In lists, a whole number may stand beside the floating point number that it is. -/
theorem nested_coherent
    : let least := Value.list [.integer 9007199254740992, .list [.integer 1]]
      let between := Value.list [.double ⟨0x4340000000000000⟩, .list [.float ⟨0x3fc00000⟩]]
      let greatest := Value.list [.integer 9007199254740992, .list [.integer 2]]
      ¬ Blurred least between greatest ∧ least.compare? greatest = some .lt := by
  intro least between greatest
  have half : ¬ looselyEquals (.float ⟨0x3fc00000⟩) (.integer 1) = true := by decide +kernel
  have clear : ¬ Blurred least between greatest := by
    intro blurred
    rcases blurred_cons.mp blurred with heads | ⟨_, _, _, blurred⟩
    · cases heads with | middle blurs => exact blurs.1 rfl
    · rcases blurred_cons.mp blurred with heads | ⟨_, _, _, blurred⟩
      · rcases blurred_cons.mp heads with heads | ⟨left, _⟩
        · cases heads with | middle blurs => exact half blurs.looselyEquals.1
        · exact half (looselyEquals_comm.mp left)
      · cases blurred
  exact ⟨clear, (compare?_coherent least between greatest).2.2 (by decide +kernel) (by decide +kernel)
    (Or.inr clear)⟩

/-- A floating point number is loosely equal to two different whole numbers, and lists that have them at
their first places can be ordered in a circle.
-/
theorem rounded_circle
    : let even := Value.integer 9007199254740992
      let odd := Value.integer 9007199254740993
      let rounded := Value.double ⟨0x4340000000000000⟩
      even.looselyEquals rounded = true
      ∧ rounded.looselyEquals odd = true
      ∧ even.looselyEquals odd = false
      ∧ compare? (.list [odd, .integer 1]) (.list [rounded, .integer 2]) = some .lt
      ∧ compare? (.list [rounded, .integer 2]) (.list [even, .integer 3]) = some .lt
      ∧ compare? (.list [odd, .integer 1]) (.list [even, .integer 3]) = some .gt := by
  decide +kernel

end Value

end EntityStore
