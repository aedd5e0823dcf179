import EntityStore.Predicate.Basic

/-! Building predicates along typed paths.
A path grows by relations and ends at an attribute. Once it has crossed a list it compares with any
of the values it reaches.
-/

namespace EntityStore

/-- The path to an object or an attribute. -/
structure KeyPath where
  key : String
  anyOf : Bool
  deriving DecidableEq, Repr

namespace KeyPath

/-- The path to the queried object itself. -/
def root : KeyPath := ⟨"", false⟩

/-- The path with one more name, which may stand for a list. -/
def step (path : KeyPath) (name : String) (list : Bool) : KeyPath :=
  ⟨joinKey path.key name, path.anyOf || list⟩

/-- The comparison at a path. -/
def leaf (path : KeyPath) (comparison : Comparison) : Predicate :=
  .compare path.key path.anyOf comparison

end KeyPath

/-- The comparisons of a typed attribute. -/
inductive TypedComparison where
  | isTrue
  | isFalse
  | equals (scalar : Scalar)
  | notEquals (scalar : Scalar)
  | isIn (scalars : List Scalar)
  | contains (text : String)
  | isNil
  | greaterThan (bound : Scalar)
  | greaterThanOrEqual (bound : Scalar)
  | lessThan (bound : Scalar)
  | lessThanOrEqual (bound : Scalar)
  deriving DecidableEq, Repr

namespace TypedComparison

/-- The comparison can be made with attributes of the type. -/
def appliesTo (type : ScalarType) : TypedComparison → Bool
  | isTrue => type = .bool
  | isFalse => type = .bool
  | equals scalar => type.admits scalar
  | notEquals scalar => type ≠ .bool && type.admits scalar
  | isIn scalars => type ≠ .bool && scalars.all type.admits
  | contains _ => type = .string
  | isNil => type = .string
  | greaterThan bound => type.isOrdered && type.admits bound
  | greaterThanOrEqual bound => type.isOrdered && type.admits bound
  | lessThan bound => type.isOrdered && type.admits bound
  | lessThanOrEqual bound => type.isOrdered && type.admits bound

/-- The equality of an attribute with a scalar. What is not true counts as false, also where there
is no value. -/
def equality (path : KeyPath) : Scalar → Predicate
  | .bool true => path.leaf .isTrue
  | .bool false => path.leaf .isFalse
  | scalar => path.leaf (.equals scalar.toValue)

/-- The predicate of a comparison at the path of an attribute. -/
def predicate (path : KeyPath) : TypedComparison → Predicate
  | isTrue => path.leaf .isTrue
  | isFalse => path.leaf .isFalse
  | equals scalar => equality path scalar
  | notEquals scalar => (equality path scalar).not
  | isIn scalars => path.leaf (.isIn (scalars.map Scalar.toValue))
  | contains text => path.leaf (.contains text)
  | isNil => path.leaf .isNil
  | greaterThan bound => path.leaf (.greaterThan bound.toValue)
  | greaterThanOrEqual bound => path.leaf (.greaterThanOrEqual bound.toValue)
  | lessThan bound => path.leaf (.lessThan bound.toValue)
  | lessThanOrEqual bound => path.leaf (.lessThanOrEqual bound.toValue)

end TypedComparison

end EntityStore
