import EntityStore.Entity.Basic

/-! Objects of entity types.
An object holds the contents of its fields in the order of the fields. Objects are equal when their
contents are, where floating point numbers are compared by what they stand for: an object that holds
a value that is no number differs from itself.
-/

namespace EntityStore

mutual
/-- An object: the contents of its fields in order. -/
inductive Object where
  | mk (contents : List Content)

/-- The content of a field. A content of members is present unless it is an optional list that is
left out. -/
inductive Content where
  | scalar (content : Shaped Scalar)
  | textual (content : Shaped Textual)
  | members (present : Bool) (objects : List Object)
end

deriving instance Repr for Object, Content

instance : Inhabited Object := ⟨.mk []⟩

namespace Object

/-- The contents of the fields in order. -/
def contents : Object → List Content
  | mk contents => contents

mutual
/-- The objects are equal. -/
def equals : Object → Object → Bool
  | mk as, mk bs => contentsEqual as bs

/-- The contents of the fields are equal one by one. -/
def contentsEqual : List Content → List Content → Bool
  | [], [] => true
  | a :: as, b :: bs => contentEqual a b && contentsEqual as bs
  | _, _ => false

/-- The contents of a field are equal. -/
def contentEqual : Content → Content → Bool
  | .scalar a, .scalar b => a.agree Scalar.sameValue b
  | .textual a, .textual b => a.agree (fun a b => a = b) b
  | .members p as, .members q bs => p = q && allEqual as bs
  | _, _ => false

/-- The objects are equal one by one. -/
def allEqual : List Object → List Object → Bool
  | [], [] => true
  | a :: as, b :: bs => equals a b && allEqual as bs
  | _, _ => false
end

/-- The text in the content of an identifying field. -/
def identifierText? : Content → Option String
  | .scalar (.one (.string text)) => some text
  | _ => none

/-- The identifier of an object of an entity type. -/
def identity? (entity : EntityType) (object : Object) : Option String := do
  let (_, content) ← (entity.fields.zip object.contents).find? (fun entry => entry.1.isId)
  identifierText? content

/-- The number of members is one that a shape allows, and members are left out only where the shape
is an optional list. -/
def membersFit (shape : Shape) (present : Bool) (count : Nat) : Bool :=
  if shape.list then present || (shape.optional && count = 0)
  else present && (if shape.optional then count ≤ 1 else count = 1)

mutual
/-- The object is one of an entity type of a model. -/
def fits (model : Model) (entity : EntityType) : Object → Bool
  | mk contents => contentsFit model entity.fields contents

/-- The contents are those of the fields. -/
def contentsFit (model : Model) : List Field → List Content → Bool
  | [], [] => true
  | field :: fields, content :: contents =>
      contentFits model field content && contentsFit model fields contents
  | _, _ => false

/-- The content is one of a field. -/
def contentFits (model : Model) (field : Field) : Content → Bool
  | .scalar content => match field.kind with
      | .scalar type => content.shape = field.shape && content.items.all type.admits
      | _ => false
  | .textual content => match field.kind with
      | .textual type => content.shape = field.shape && content.items.all type.admits
      | _ => false
  | .members present objects => match field.kind with
      | .reference entity =>
          membersFit field.shape present objects.length
            && allFit model (model.entity entity) objects
      | _ => false

/-- The objects are ones of an entity type. -/
def allFit (model : Model) (entity : EntityType) : List Object → Bool
  | [] => true
  | object :: objects => fits model entity object && allFit model entity objects
end

end Object

namespace Shape

/-- The content that a field of a shape starts with. -/
def default (item : α) : Shape → Shaped α
  | ⟨false, false⟩ => .one item
  | ⟨true, false⟩ => .option none
  | ⟨false, true⟩ => .many []
  | ⟨true, true⟩ => .optionMany none

end Shape

/-- The content that a field holds that is not stored. -/
def Field.defaultContent (field : Field) : Content :=
  match field.kind with
  | .scalar type => .scalar (field.shape.default type.default)
  | .textual type => .textual (field.shape.default type.default)
  | .reference _ => .members (!(field.shape.optional && field.shape.list)) []

end EntityStore
