import EntityStore.Proofs.Object.Member

/-! Members that are claimed by objects which equal them.
Objects claim members in their order: each takes the first member that equals it, or else the first one
with its identifier. An object can therefore take a member away that a later object equals, but only
where the two have the same identifier without being equal.
-/

namespace EntityStore

-----------------------------------------------------------------------------------------
-- Equal objects
-----------------------------------------------------------------------------------------

namespace Object

variable {type : EntityType}

/-- A content that equals the content of an identifier is that content. -/
private theorem identifierText?_of_equal {a b : Content} {text : String}
    (same : contentEqual a b = true) (identifies : identifierText? a = some text)
    : identifierText? b = some text := by
  unfold identifierText? at identifies
  split at identifies
  · cases identifies
    cases b with
    | scalar other =>
        cases other with
        | one scalar =>
            cases scalar <;> simp_all [contentEqual, Shaped.agree, Scalar.sameValue, identifierText?]
        | _ => simp [contentEqual, Shaped.agree] at same
    | _ => simp [contentEqual] at same
  · cases identifies

/-- Equal contents identify an object alike. -/
private theorem identifying_of_equal {fields : List Field} {as bs : List Content}
    (same : contentsEqual as bs = true) {text : String}
    (identifies
      : ((fields.zip as).find? (·.1.isId)).bind (fun entry => identifierText? entry.2) = some text)
    : ((fields.zip bs).find? (·.1.isId)).bind (fun entry => identifierText? entry.2) = some text := by
  induction fields generalizing as bs with
  | nil => cases identifies
  | cons field fields ih =>
      cases as with
      | nil => cases identifies
      | cons a as =>
          cases bs with
          | nil => simp [contentsEqual] at same
          | cons b bs =>
              rw [contentsEqual, Bool.and_eq_true] at same
              rw [List.zip_cons_cons, List.find?_cons] at identifies ⊢
              cases isId : field.isId with
              | true =>
                  simp only [isId, Option.bind_some] at identifies ⊢
                  exact identifierText?_of_equal same.1 identifies
              | false =>
                  simp only [isId] at identifies ⊢
                  exact ih same.2 identifies

/-- Equal objects have the same identifier. -/
theorem identity?_of_equals {a b : Object} (same : a.equals b = true)
    : a.identity? type = b.identity? type := by
  have half {a b : Object} (same : a.equals b = true) {text : String}
      (identifies : a.identity? type = some text)
      : b.identity? type = some text := by
    cases a with
    | mk as =>
        cases b with
        | mk bs =>
            rw [equals] at same
            exact identifying_of_equal same identifies
  exact Option.ext (fun text => ⟨half same, half (equals_symm _ _ same)⟩)

/-- The object has the identifier of another one without being equal to it. -/
def rivals (type : EntityType) (x other : Object) : Bool :=
  (other.identity? type).isSome && other.identity? type = x.identity? type && !other.equals x

/-- How many rivals of an object come before the last one of a list that equals it. -/
def rivalsBefore (type : EntityType) (x : Object) : List Object → Nat
  | [] => 0
  | object :: objects =>
      (if x.rivals type object && objects.any (·.equals x) then 1 else 0) + x.rivalsBefore type objects

/-- Where no identifier comes twice there are no rivals. -/
theorem rivalsBefore_eq_zero (x : Object) {objects : List Object}
    (distinct : (objects.filterMap (·.identity? type)).Nodup)
    : x.rivalsBefore type objects = 0 := by
  induction objects with
  | nil => rfl
  | cons object objects ih =>
      have rest : (objects.filterMap (·.identity? type)).Nodup :=
        distinct.sublist ((List.sublist_cons_self _ _).filterMap _)
      rw [rivalsBefore, ih rest, Nat.add_zero, if_neg]
      intro given
      simp only [rivals, Bool.and_eq_true, decide_eq_true_eq, List.any_eq_true] at given
      obtain ⟨⟨⟨identified, same⟩, _⟩, later, listed, equal⟩ := given
      obtain ⟨text, found⟩ := Option.isSome_iff_exists.mp identified
      rw [List.filterMap_cons_some found, List.nodup_cons] at distinct
      refine distinct.1 (List.mem_filterMap.mpr ⟨later, listed, ?_⟩)
      rw [identity?_of_equals equal, ← same, found]

end Object

-----------------------------------------------------------------------------------------
-- Claims
-----------------------------------------------------------------------------------------

namespace Member

variable {type : EntityType}

/-- The member that an object claims by being equal to it, if there is one, and the members that its claim
leaves to other objects.
-/
def claimed? (type : EntityType) (object : Object) (pool : List Member) : Option Member × List Member :=
  match take? (equals object) pool with
  | some (member, rest) => (some member, rest)
  | none =>
      match take? (identifies type object) pool with
      | some (_, rest) => (none, rest)
      | none => (none, pool)

/-- The members that objects claim one after another by being equal to them. -/
def kept (type : EntityType) : List Object → List Member → List Member
  | [], _ => []
  | object :: objects, pool =>
      (claimed? type object pool).1.toList ++ kept type objects (claimed? type object pool).2

/-- What an object can claim: a member that equals it, or else one with its identifier, or else none. -/
inductive Claims (type : EntityType) (object : Object) (pool : List Member)
    : Option Member × List Member → Prop
  | equal {member : Member} {rest : List Member} (equal : equals object member = true)
    (perm : pool.Perm (member :: rest)) (sub : rest.Sublist pool)
    : Claims type object pool (some member, rest)
  | identified {member : Member} {rest : List Member}
    (none : ∀ other ∈ pool, equals object other = false) (identified : identifies type object member = true)
    (perm : pool.Perm (member :: rest)) (sub : rest.Sublist pool)
    : Claims type object pool (Option.none, rest)
  | new (none : ∀ other ∈ pool, equals object other = false) : Claims type object pool (Option.none, pool)

theorem claims_claimed? (type : EntityType) (object : Object) (pool : List Member)
    : Claims type object pool (claimed? type object pool) := by
  unfold claimed?
  split
  · next member rest taken =>
      obtain ⟨equal, perm, sub⟩ := take?_eq_some taken
      exact .equal equal perm sub
  · next missing =>
      split
      · next member rest taken =>
          obtain ⟨identified, perm, sub⟩ := take?_eq_some taken
          exact .identified (take?_eq_none missing) identified perm sub
      · exact .new (take?_eq_none missing)

theorem equals_iff {object : Object} {member : Member}
    : equals object member = true
      ↔ ∃ mapped, member.object? = some mapped ∧ mapped.equals object = true := by
  rw [equals]
  cases member.object? <;> simp

/-- What equals an object equals another one exactly where the two are equal. -/
theorem equals_eq {member : Member} {a b : Object} (equal : equals a member = true)
    : equals b member = a.equals b := by
  obtain ⟨mapped, found, same⟩ := equals_iff.mp equal
  rw [equals, found, Option.any_some, Bool.eq_iff_iff]
  constructor
  · exact fun same' => Object.equals_trans _ _ _ (Object.equals_symm _ _ same) same'
  · exact fun same' => Object.equals_trans _ _ _ same same'

/-- An object that claims a member by its identifier is a rival of what the member equals. -/
theorem rivals_of_identifies {member : Member} {x object : Object} (equal : equals x member = true)
    (identified : identifies type object member = true) (differs : object.equals x = false)
    : x.rivals type object = true := by
  obtain ⟨mapped, found, same⟩ := equals_iff.mp equal
  unfold identifies at identified
  split at identified
  · next text identity =>
      rw [found, Option.bind_some, decide_eq_true_iff, Object.identity?_of_equals same] at identified
      simp [Object.rivals, identity, identified, differs]
  · cases identified

/-- The claimed members are part of the pool. -/
theorem kept_subperm (objects : List Object) (pool : List Member)
    : (kept type objects pool).Subperm pool := by
  induction objects generalizing pool with
  | nil => exact List.nil_subperm
  | cons object objects ih =>
      rw [kept]
      have claims := claims_claimed? type object pool
      generalize claimed? type object pool = claimed at claims ⊢
      cases claims with
      | @equal member rest _ perm _ =>
          exact ((List.subperm_cons member).mpr (ih rest)).trans perm.symm.subperm
      | identified _ _ _ sub => exact (ih _).trans sub.subperm
      | new => exact ih pool

/-- What a claim does to the members that equal an object: there are none, or one leaves the pool exactly
where the claiming object is an equal one, or a rival takes one.
-/
private theorem Claims.countP {x object : Object} {pool : List Member}
    {claimed : Option Member × List Member} (claims : Claims type object pool claimed)
    : pool.countP (equals x) = 0
      ∨ (claimed.1.toList.countP (equals x) = (if object.equals x then 1 else 0)
        ∧ pool.countP (equals x) = claimed.1.toList.countP (equals x) + claimed.2.countP (equals x))
      ∨ (x.rivals type object = true
        ∧ object.equals x = false
        ∧ pool.countP (equals x) = claimed.2.countP (equals x) + 1) := by
  -- An object that equals `x` and claims no equal member finds none that equals `x`.
  have absent (none : ∀ other ∈ pool, equals object other = false) (same : object.equals x = true)
      : pool.countP (equals x) = 0 := by
    refine List.countP_eq_zero.mpr (fun other inside equal => ?_)
    have missed := none other inside
    rw [equals_eq equal, Object.equals_symm _ _ same] at missed
    cases missed
  cases claims with
  | @equal member rest equal perm sub =>
      have same : equals x member = object.equals x := equals_eq equal
      refine Or.inr (Or.inl ⟨?_, ?_⟩)
      · simp only [Option.toList_some, List.countP_singleton, same]
      · rw [perm.countP_eq, Option.toList_some, List.countP_singleton, List.countP_cons, Nat.add_comm]
  | @identified member rest none identified perm sub =>
      cases same : object.equals x with
      | true => exact Or.inl (absent none same)
      | false =>
          rw [perm.countP_eq, List.countP_cons]
          cases equal : equals x member with
          | true => exact Or.inr (Or.inr ⟨rivals_of_identifies equal identified same, rfl, rfl⟩)
          | false => exact Or.inr (Or.inl ⟨rfl, (Nat.zero_add _).symm⟩)
  | new none =>
      cases same : object.equals x with
      | true => exact Or.inl (absent none same)
      | false => exact Or.inr (Or.inl ⟨rfl, (Nat.zero_add _).symm⟩)

/-- Of the members that equal an object, as many are kept as there are equal objects, less those that
rivals can have taken before.
Witness: induction on the objects; a rival that takes a member counts only where an equal object follows.
-/
theorem min_le_countP_kept (x : Object) (objects : List Object) (pool : List Member)
    : min (objects.countP (·.equals x)) (pool.countP (equals x) - x.rivalsBefore type objects)
      ≤ (kept type objects pool).countP (equals x) := by
  induction objects generalizing pool with
  | nil => simp
  | cons object objects ih =>
      rw [kept, List.countP_append, Object.rivalsBefore, List.countP_cons]
      have ih := ih (claimed? type object pool).2
      rcases (claims_claimed? type object pool).countP (x := x) with none | ⟨taken, left⟩ |
        ⟨rival, differs, left⟩
      · omega
      · omega
      · cases later : objects.any (·.equals x) with
        | true =>
            simp only [rival, differs, Bool.and_self, Bool.false_eq_true, if_true, if_false]
            omega
        | false =>
            have none : objects.countP (·.equals x) = 0 := by
              rwa [List.countP_eq_zero, ← List.any_eq_false]
            simp only [none, differs, Bool.false_eq_true, if_false]
            omega

end Member

end EntityStore
