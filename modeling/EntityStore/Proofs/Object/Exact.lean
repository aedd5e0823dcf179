import EntityStore.Proofs.Field.Equality
import EntityStore.Proofs.Mapping.Outcome
import EntityStore.Proofs.Object.Lawful

/-! Objects without floating point numbers.
What a scalar field reads is of the type of the field. So the objects of a type whose fields hold no
floating point numbers hold none, and equality tells them apart exactly.
-/

namespace EntityStore

-----------------------------------------------------------------------------------------
-- Scalars that are read
-----------------------------------------------------------------------------------------

namespace ScalarType

variable {type : ScalarType}

/-- A scalar that is read is one of the type. -/
theorem admits_of_decode? {value : Value} {scalar : Scalar} (read : type.decode? value = some scalar)
    : type.admits scalar = true := by
  unfold decode? at read
  split at read
  case h_10 type i _ =>
    split at read
    · next fits =>
        cases read
        exact fits
    · cases read
  all_goals
    cases read
  all_goals rfl

/-- Everything that is read from a list is one of the type. -/
private theorem all_admits_of_decodeList {value : Value} {items : List Scalar}
    (read
      : (Shape.decodeList (m := Id) (fun value => .mk (pure (type.decode? value))) value).run.run
        = some items)
    : items.all type.admits = true := by
  unfold Shape.decodeList at read
  split at read
  · next values =>
      induction values generalizing items with
      | nil =>
          cases read
          rfl
      | cons value values ih =>
          rw [List.mapM_cons] at read
          cases first : type.decode? value with
          | none => simp [first] at read
          | some scalar =>
              simp only [first, bind_pure_comp, OptionT.run_bind, OptionT.run_mk, OptionT.run_map,
                Option.elimM_pure, Option.elim_some, Id.run_map, Option.map_eq_some_iff] at read
              obtain ⟨rest, later, rfl⟩ := read
              rw [List.all_cons, admits_of_decode? first, ih later]
              rfl
  · cases read

/-- What is made of a reading is made of something that has been read. -/
private theorem exists_of_map {α β : Type} {reading : OptionT Id α} {f : α → β} {content : β}
    (read : (f <$> reading).run.run = some content)
    : ∃ items, reading.run.run = some items ∧ f items = content := by
  simpa only [OptionT.run_map, Id.run_map, Option.map_eq_some_iff] using read

/-- Everything that a scalar field reads is one of its type. -/
theorem admits_of_ofAttribute? {shape : Shape} {stored : Option Value} {content : Shaped Scalar}
    (read : type.ofAttribute? shape stored = some content)
    : content.items.all type.admits = true := by
  unfold ofAttribute? Shape.decode at read
  split at read
  · cases read
  · obtain ⟨scalar, decoded, rfl⟩ := exists_of_map read
    simpa [Shaped.items] using admits_of_decode? decoded
  · cases read
    rfl
  · obtain ⟨scalar, decoded, rfl⟩ := exists_of_map read
    simpa [Shaped.items] using admits_of_decode? decoded
  · cases read
    rfl
  · obtain ⟨scalars, decoded, rfl⟩ := exists_of_map read
    exact all_admits_of_decodeList decoded
  · cases read
    rfl
  · obtain ⟨scalars, decoded, rfl⟩ := exists_of_map read
    exact all_admits_of_decodeList decoded

end ScalarType

/-- The scalar is a floating point number. -/
def Scalar.isReal : Scalar → Bool
  | float _ => true
  | double _ => true
  | _ => false

theorem Scalar.sameValue_iff {a b : Scalar} (exact : a.isReal = false)
    : a.sameValue b = true ↔ a = b := by
  cases a with
  | float x => cases exact
  | double x => cases exact
  | _ => simp [sameValue]

-----------------------------------------------------------------------------------------
-- Objects
-----------------------------------------------------------------------------------------

namespace Object

mutual
/-- There is no floating point number in the object. -/
def Exact : Object → Prop
  | mk contents => ContentsExact contents

/-- There is none in the contents. -/
def ContentsExact : List Content → Prop
  | [] => True
  | content :: contents => ContentExact content ∧ ContentsExact contents

/-- There is none in the content. -/
def ContentExact : Content → Prop
  | .scalar content => ∀ scalar ∈ content.items, scalar.isReal = false
  | .textual _ => True
  | .members _ objects => AllExact objects

/-- There is none in the objects. -/
def AllExact : List Object → Prop
  | [] => True
  | object :: objects => Exact object ∧ AllExact objects
end

theorem contentsExact_iff {contents : List Content}
    : ContentsExact contents ↔ ∀ content ∈ contents, ContentExact content := by
  induction contents with
  | nil => simp [ContentsExact]
  | cons content contents ih => simp [ContentsExact, ih]

theorem allExact_iff {objects : List Object}
    : AllExact objects ↔ ∀ object ∈ objects, object.Exact := by
  induction objects with
  | nil => simp [AllExact]
  | cons object objects ih => simp [AllExact, ih]

mutual
/-- An object without floating point numbers equals nothing but itself. -/
theorem Exact.equals_iff (a b : Object) (exact : a.Exact) : equals a b = true ↔ a = b := by
  cases a with
  | mk as =>
      cases b with
      | mk bs =>
          rw [equals, ContentsExact.equal_iff as bs exact, mk.injEq]
termination_by structural a

theorem ContentsExact.equal_iff (as bs : List Content) (exact : ContentsExact as)
    : contentsEqual as bs = true ↔ as = bs := by
  match as, bs, exact with
  | [], [], _ => simp [contentsEqual]
  | [], _ :: _, _ => simp [contentsEqual]
  | _ :: _, [], _ => simp [contentsEqual]
  | a :: as, b :: bs, ⟨first, rest⟩ =>
      rw [contentsEqual, Bool.and_eq_true, ContentExact.equal_iff a b first,
        ContentsExact.equal_iff as bs rest, List.cons.injEq]
termination_by structural as

theorem ContentExact.equal_iff (a b : Content) (exact : ContentExact a)
    : contentEqual a b = true ↔ a = b := by
  cases a with
  | scalar content =>
      cases b with
      | scalar other =>
          rw [contentEqual, Content.scalar.injEq]
          exact Shaped.agree_iff (fun x inside y => Scalar.sameValue_iff (exact x inside))
      | _ => simp [contentEqual]
  | textual content =>
      cases b with
      | textual other => rw [contentEqual, Content.textual.injEq, Textual.agree_iff]
      | _ => simp [contentEqual]
  | members present objects =>
      cases b with
      | members present' others =>
          rw [contentEqual, Bool.and_eq_true, decide_eq_true_iff, AllExact.equal_iff objects others exact,
            Content.members.injEq]
      | _ => simp [contentEqual]
termination_by structural a

/-- Objects without floating point numbers are equal one by one only if they are the same. -/
theorem AllExact.equal_iff (as bs : List Object) (exact : AllExact as)
    : allEqual as bs = true ↔ as = bs := by
  match as, bs, exact with
  | [], [], _ => simp [allEqual]
  | [], _ :: _, _ => simp [allEqual]
  | _ :: _, [], _ => simp [allEqual]
  | a :: as, b :: bs, ⟨first, rest⟩ =>
      rw [allEqual, Bool.and_eq_true, Exact.equals_iff a b first, AllExact.equal_iff as bs rest,
        List.cons.injEq]
termination_by structural as
end

end Object

-----------------------------------------------------------------------------------------
-- Objects that are mapped
-----------------------------------------------------------------------------------------

/-- No field of the type holds floating point numbers. -/
def EntityType.Exact (type : EntityType) : Prop :=
  ∀ field ∈ type.fields, field.kind ≠ .scalar .float32 ∧ field.kind ≠ .scalar .float64

instance (type : EntityType) : Decidable type.Exact :=
  inferInstanceAs (Decidable (∀ field ∈ type.fields, _))

/-- The scalar that a field starts with is one of its type. -/
theorem ScalarType.admits_default (type : ScalarType) : type.admits type.default = true := by
  cases type <;> decide

/-- A field without floating point numbers has none among the scalars of its type. -/
theorem Field.isReal_of_admits {field : Field} (single : field.kind ≠ .scalar .float32)
    (double : field.kind ≠ .scalar .float64) {type : ScalarType} (kind : field.kind = .scalar type)
    {scalar : Scalar} (admits : type.admits scalar = true)
    : scalar.isReal = false := by
  cases scalar with
  | float x => exact absurd (kind.trans (congrArg _ (of_decide_eq_true admits))) single
  | double x => exact absurd (kind.trans (congrArg _ (of_decide_eq_true admits))) double
  | _ => rfl

/-- A field without floating point numbers has none at its default either. -/
theorem Field.exact_defaultContent {field : Field} (single : field.kind ≠ .scalar .float32)
    (double : field.kind ≠ .scalar .float64)
    : Object.ContentExact field.defaultContent := by
  unfold defaultContent
  split
  · next type kind =>
      intro scalar inside
      have same : scalar = type.default := by
        unfold Shape.default at inside
        split at inside
        · exact List.mem_singleton.mp inside
        all_goals contradiction
      exact isReal_of_admits single double kind (same ▸ type.admits_default)
  · trivial
  · trivial

/-- A record of a type without floating point numbers maps to an object without any.
Witness: induction on the depth; members are objects of plain types, which have none either.
-/
theorem Mapping.exact_of_pure {model types : Model} (lawful : model.Lawful types)
    {source : RecordSource} (depth : Nat) {entity : String} (known : model.Knows entity)
    (exact : (model.entity entity).Exact) {record : Record} {object : Object}
    (mapped : ofRecordWithin model source depth entity record = pure object)
    : object.Exact := by
  induction depth generalizing entity record object with
  | zero => cases mapped
  | succ depth ih =>
      obtain ⟨contents, read, same⟩ := bind_eq_pure_iff.mp mapped
      cases same
      refine Object.contentsExact_iff.mpr (fun content listed => ?_)
      obtain ⟨field, inside, comes⟩ := comes_of_mem_contents read listed
      obtain ⟨single, double⟩ := exact field inside
      cases comes with
      | skipped => exact Field.exact_defaultContent single double
      | @scalar type shaped kind comes =>
          intro scalar inside
          have admits := List.all_eq_true.mp (ScalarType.admits_of_ofAttribute? comes) scalar inside
          exact Field.isReal_of_admits single double kind admits
      | textual => trivial
      | @members target objects kind comes =>
          obtain ⟨_, known, plain⟩ := lawful.reference known inside kind
          refine Object.allExact_iff.mpr (fun object listed => ?_)
          obtain ⟨member, mapped⟩ := comes object listed
          exact ih known plain.exact mapped

end EntityStore
