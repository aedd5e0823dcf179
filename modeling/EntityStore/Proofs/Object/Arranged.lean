import EntityStore.Entity.Update
import EntityStore.Proofs.Json.Fields
import EntityStore.Proofs.Object.Equality
import Mathlib.Data.List.Perm.Basic

/-! Members that already are the objects of their relation.
Whether they are is decided by claims: each object in turn takes an equal one out of a pool, whose last
one fills the gap. Taking the first equal one is as good as taking any other, because those that equal
the same object equal one another.
-/

namespace EntityStore.Member

open scoped List

variable {α : Type} {same : α → α → Bool}

-----------------------------------------------------------------------------------------
-- Claims
-----------------------------------------------------------------------------------------

/-- A pool is what is taken out of it and what it leaves. -/
theorem perm_swapRemove {pool : List α} {position : Nat} {candidate : α}
    (there : pool[position]? = some candidate)
    : pool ~ candidate :: swapRemove pool position := by
  rcases List.eq_nil_or_concat' pool with rfl | ⟨init, last, rfl⟩
  · cases there
  · simp only [swapRemove, List.getLast?_concat]
    rcases Nat.lt_trichotomy position init.length with before | rfl | beyond
    · obtain rfl : init[position] = candidate := by
        simpa [List.getElem?_append_left before, List.getElem?_eq_getElem before] using there
      rw [List.set_append_left _ _ before, List.dropLast_concat]
      calc init ++ [last] ~ last :: init := List.perm_append_singleton _ _
        _ ~ last :: init[position] :: init.eraseIdx position :=
            (List.getElem_cons_eraseIdx_perm before).symm.cons last
        _ ~ init[position] :: last :: init.eraseIdx position := .swap _ _ _
        _ ~ init[position] :: init.set position last :=
            (List.set_perm_cons_eraseIdx before last).symm.cons _
    · obtain rfl : last = candidate := by simpa using there
      rw [List.set_append_right _ _ (Nat.le_refl _)]
      simp
    · simp [List.getElem?_eq_none (l := init ++ [last]) (i := position) (by simp; omega)] at there

/-- In a pool that objects are matched with, one that has been taken out can be replaced by another one
that is the same.
-/
theorem exists_replaced {related : α → α → Prop} {arranged objects : List α} {candidate other : α}
    (all : List.Forall₂ related arranged objects) (inside : candidate ∈ arranged)
    (like : ∀ object, related candidate object → related other object)
    : ∃ arranged',
        List.Forall₂ related arranged' objects
        ∧ candidate :: arranged' ~ other :: arranged := by
  induction all with
  | nil => cases inside
  | @cons head object arranged objects first rest ih =>
      rcases List.mem_cons.mp inside with rfl | inside
      · exact ⟨other :: arranged, .cons (like _ first) rest, .swap _ _ _⟩
      · obtain ⟨arranged', rest', perm⟩ := ih inside
        refine ⟨head :: arranged', .cons first rest', ?_⟩
        exact (List.Perm.swap _ _ _).trans ((perm.cons head).trans (.swap _ _ _))

/-- Where an arrangement begins with one object and another one that is the same is taken out, the rest
of the pool can be arranged like the rest of the objects.
-/
private theorem exists_arranged (equates : Equates same) {object head candidate : α}
    {objects arranged rest pool : List α} (passes : same head object = true)
    (passes' : same candidate object = true)
    (perm : head :: (arranged ++ rest) ~ candidate :: pool)
    (all : List.Forall₂ (fun candidate object => same candidate object = true) arranged objects)
    : ∃ arranged rest : List α,
        arranged ++ rest ~ pool
        ∧ List.Forall₂ (fun candidate object => same candidate object = true) arranged objects := by
  rcases List.mem_cons.mp (perm.mem_iff.mpr List.mem_cons_self) with rfl | listed
  · exact ⟨arranged, rest, perm.cons_inv, all⟩
  rcases List.mem_append.mp listed with listed | listed
  · obtain ⟨arranged', all', swapped⟩ := exists_replaced all listed
      (fun other equal => equates.trans (equates.trans passes (equates.symm passes')) equal)
    exact ⟨arranged', rest, ((swapped.append_right rest).trans perm).cons_inv, all'⟩
  · obtain ⟨left, right, rfl⟩ := List.append_of_mem listed
    refine ⟨arranged, head :: (left ++ right), List.Perm.cons_inv (.trans ?_ perm), all⟩
    rw [← List.append_assoc arranged left (candidate :: right)]
    calc candidate :: (arranged ++ head :: (left ++ right))
        ~ candidate :: head :: (arranged ++ (left ++ right)) := .cons _ List.perm_middle
      _ ~ head :: candidate :: (arranged ++ (left ++ right)) := .swap _ _ _
      _ ~ head :: (arranged ++ left ++ candidate :: right) := by
          rw [← List.append_assoc]
          exact .cons _ List.perm_middle.symm

/-- Objects claim all they need out of a pool exactly where a part of the pool can be arranged like them.
Witness: induction on the objects; where the first candidate is not the one of the arrangement, the two
of them change places.
-/
theorem claimAll_iff (equates : Equates same) {objects pool : List α}
    : claimAll same objects pool = true
      ↔ ∃ arranged rest : List α,
          arranged ++ rest ~ pool
          ∧ List.Forall₂ (fun candidate object => same candidate object = true) arranged objects := by
  induction objects generalizing pool with
  | nil => simpa [claimAll] using ⟨pool, .refl _⟩
  | cons object objects ih =>
      rw [claimAll]
      constructor
      · intro claims
        split at claims
        · next position first =>
            obtain ⟨inside, passes, _⟩ := List.findIdx?_eq_some_iff_getElem.mp first
            obtain ⟨arranged, rest, perm, all⟩ := ih.mp claims
            exact ⟨pool[position] :: arranged, rest,
              (perm.cons _).trans (perm_swapRemove (List.getElem?_eq_getElem inside)).symm,
              .cons passes all⟩
        · cases claims
      · rintro ⟨_, rest, perm, all⟩
        cases all with
        | @cons head _ arranged _ passes all =>
        have listed : head ∈ pool := perm.mem_iff.mp List.mem_cons_self
        split
        · next position first =>
            obtain ⟨inside, passes', _⟩ := List.findIdx?_eq_some_iff_getElem.mp first
            have out := perm_swapRemove (List.getElem?_eq_getElem inside)
            exact ih.mpr (exists_arranged equates passes passes' (perm.trans out) all)
        · next none =>
            exact absurd passes (Bool.eq_false_iff.mp (List.findIdx?_eq_none_iff.mp none head listed))

-----------------------------------------------------------------------------------------
-- Members and objects
-----------------------------------------------------------------------------------------

/-- Every member maps, and what the members map to is the given objects, one equal to the other: in the
same order, or in some order where the order does not matter.
-/
def Hold (same : Object → Object → Bool) (unordered : Bool) (members : List Member)
    (objects : List Object)
    : Prop :=
  ∃ mapped arranged : List Object,
    members.map (·.object?) = mapped.map some
    ∧ (if unordered then arranged ~ mapped else arranged = mapped)
    ∧ List.Forall₂ (fun candidate object => same candidate object = true) arranged objects

private theorem mapM_object?_iff {members : List Member} {mapped : List Object}
    : members.mapM (·.object?) = some mapped ↔ members.map (·.object?) = mapped.map some := by
  rw [mapM_eq_some_iff, ← List.forall₂_eq_eq_eq, List.forall₂_map_left_iff,
    List.forall₂_map_right_iff]

/-- The test whether anything is to change is exact. -/
theorem unchanged_iff {same : Object → Object → Bool} (equates : Equates same) {unordered : Bool}
    {members : List Member} {objects : List Object}
    : unchanged same unordered members objects = true ↔ Hold same unordered members objects := by
  have length {mapped : List Object} (maps : members.map (·.object?) = mapped.map some)
      : members.length = mapped.length := by
    simpa using congrArg List.length maps
  rw [unchanged, Bool.and_eq_true, decide_eq_true_iff]
  constructor
  · rintro ⟨count, agrees⟩
    split at agrees
    · next mapped founds =>
        have maps := mapM_object?_iff.mp founds
        have count := (length maps).symm.trans count
        cases unordered with
        | true =>
            obtain ⟨arranged, rest, perm, all⟩ := (claimAll_iff equates).mp agrees
            have none : rest = [] := by
              have := perm.length_eq
              rw [List.length_append, all.length_eq] at this
              exact List.length_eq_zero_iff.mp (by omega)
            exact ⟨mapped, arranged, maps, by simpa [none] using perm, all⟩
        | false =>
            refine ⟨mapped, mapped, maps, rfl, List.forall₂_iff_zip.mpr ⟨count, ?_⟩⟩
            exact fun {candidate object} inside =>
              List.all_eq_true.mp agrees (candidate, object) inside
    · cases agrees
  · rintro ⟨mapped, arranged, maps, order, all⟩
    rw [mapM_object?_iff.mpr maps]
    cases unordered with
    | true =>
        refine ⟨(length maps).trans (order.length_eq.symm.trans all.length_eq), ?_⟩
        exact (claimAll_iff equates).mpr ⟨arranged, [], by simpa using order, all⟩
    | false =>
        obtain rfl : arranged = mapped := order
        refine ⟨(length maps).trans all.length_eq, List.all_eq_true.mpr (fun pair inside => ?_)⟩
        exact List.forall₂_zip all inside

end EntityStore.Member
