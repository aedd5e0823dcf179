import EntityStore.Derive.EntityCode
import EntityStore.Proofs.Derive.Declaration
import EntityStore.Proofs.Source.Literal

/-! The parts of an entity's code agree on its fields.
Filters, sort keys, reading and writing are made apart from each other, and each part decides on its own
what a field is. Every field is of one class, and all four parts treat it as a field of that class, under
the literal of one name. So what is written is what is read.
-/

namespace EntityStore.Derive

open Source

-----------------------------------------------------------------------------------------
-- Classes of fields
-----------------------------------------------------------------------------------------

/-- What a field is to an entity. -/
inductive FieldClass where
  /-- The field is not stored. -/
  | skipped
  | scalar (type : AttributeType)
  | reference (target : String)
  /-- The items are stored as their texts. -/
  | textual
  deriving DecidableEq, Repr

/-- The field is of the class. -/
def FieldClass.Of (field : FieldDeclaration) : FieldClass → Prop
  | skipped => field.skipped = true
  | scalar type => field.skipped = false ∧ field.type.kind = .scalar type
  | reference target => field.skipped = false ∧ field.type.kind = .reference target
  | textual => field.skipped = false ∧ field.type.kind = .textual

/-- Every field is of one class. -/
theorem FieldClass.existsUnique (field : FieldDeclaration) : ∃! kind : FieldClass, kind.Of field := by
  cases skipped : field.skipped with
  | true =>
      refine ⟨.skipped, skipped, fun other is => ?_⟩
      cases other <;> simp_all [Of]
  | false =>
      cases kind : field.type.kind with
      | scalar type =>
          refine ⟨.scalar type, ⟨skipped, kind⟩, fun other is => ?_⟩
          cases other <;> simp_all [Of]
      | reference target =>
          refine ⟨.reference target, ⟨skipped, kind⟩, fun other is => ?_⟩
          cases other <;> simp_all [Of]
      | textual =>
          refine ⟨.textual, ⟨skipped, kind⟩, fun other is => ?_⟩
          cases other <;> simp_all [Of]

-----------------------------------------------------------------------------------------
-- The code of a field
-----------------------------------------------------------------------------------------

/-- What the parts of an entity's code hold of a field. -/
structure FieldCode where
  /-- The accessor in a filter. -/
  filter : List Token
  /-- The accessor in a sort key. -/
  sort : List Token
  /-- The expression that reads the field. -/
  initializer : List Token
  /-- The statement that writes the field. -/
  statement : List Token

/-- What is made of a field in each part. -/
def FieldDeclaration.emitted (field : FieldDeclaration) : FieldCode where
  filter := (field.accessor?.map Accessor.predicateCode).getD []
  sort := (field.accessor?.map Accessor.sortCode).getD []
  initializer := field.read.readCode
  statement :=
    match field.write? with
    | some write => write.writeCode field.name
    | none => []

namespace FieldClass

/-- An accessor in a filter: a method that extends the path by the name, and tells whether the field is a
list. -/
def filterCode (field : FieldDeclaration) (output step : List Token) : List Token :=
  docCode ("Filter on `" ++ field.name ++ "`.")
    ++ methodCode field.name output
      (Accessor.pathCall step [textCode field.name, flagCode field.type.shape.list])

/-- An accessor in a sort key: a method that extends the path by the name. -/
def sortCode (field : FieldDeclaration) (output step : List Token) : List Token :=
  methodCode field.name output (Accessor.pathCall step [textCode field.name])

/-- An attribute is read under the name, or else the name is reported. -/
def decodeCode (field : FieldDeclaration) (decoder : String) : List Token :=
  orCoercion field.name (callCode (runtime decoder) [recordValue field.name])

/-- An attribute is written under the name. -/
def encodeCode (field : FieldDeclaration) (value : List Token) : List Token :=
  callCode (code "context . set_value") [code "object", textCode field.name, value] ++ code ";"

/-- Members are written under the name, and the old ones are deleted unless they are kept. -/
def storeCode (field : FieldDeclaration) (store : String) (members : List Token) : List Token :=
  callCode (runtime store)
    [code "context", code "object", textCode field.name, members, flagCode (!field.relation.keepOrphans)]
    ++ code ";"

/-- The code of a field whose items are entities, by its shape. -/
def referenceCode (field : FieldDeclaration) : FieldCode :=
  let filter := memberType field.type.element "Predicate"
  let sort := memberType field.type.element "Sort"
  let found := [code "record", code "source", textCode field.name]
  { filter := filterCode field filter (angleCode (code "object ::") [filter])
    sort := sortCode field sort (angleCode (code "object ::") [sort])
    initializer :=
      match field.type.shape with
      | ⟨false, false⟩ =>
          callCode (runtime "map_required")
            [code "record", code "source", code "Self :: ENTITY_NAME", textCode field.name] ++ code "?"
      | ⟨true, false⟩ => callCode (runtime "map_optional") found
      | ⟨false, true⟩ => callCode (runtime "map_many") found
      | ⟨true, true⟩ => someCode (callCode (runtime "map_many") found)
    statement :=
      match field.type.shape with
      | ⟨false, false⟩ => storeCode field "store_one" (someCode (fieldReference field.name))
      | ⟨true, false⟩ =>
          storeCode field "store_one" (callCode (fieldCode field.name ++ code ". as_ref") [])
      | ⟨false, true⟩ => storeCode field "store_many" (fieldReference field.name)
      | ⟨true, true⟩ =>
          storeCode field "store_many"
            (callCode (callCode (fieldCode field.name ++ code ". as_deref") [] ++ code ". unwrap_or")
              [code "&" ++ [brackets []]]) }

/-- The code of a field whose items are stored as their texts, by its shape. -/
def textualCode (field : FieldDeclaration) : FieldCode :=
  let encoded (encoder : String) := callCode (runtime encoder) [fieldReference field.name]
  { filter := []
    sort := []
    initializer :=
      match field.type.shape with
      | ⟨false, false⟩ => decodeCode field "opaque :: decode"
      | ⟨true, false⟩ => decodeCode field "opaque :: decode_optional"
      | ⟨false, true⟩ => decodeCode field "opaque :: decode_list"
      | ⟨true, true⟩ =>
          let texts := orCoercion field.name (callCode (runtime "opaque :: decode_list") [code "stored"])
          code "match" ++ recordValue field.name
            ++ [braces (noneCode ++ code "=>" ++ noneCode ++ code "," ++ code "stored =>"
              ++ someCode texts)]
    statement :=
      encodeCode field
        (match field.type.shape with
        | ⟨false, false⟩ => encoded "opaque :: encode"
        | ⟨true, false⟩ => encoded "opaque :: encode_optional"
        | ⟨false, true⟩ => encoded "opaque :: encode_list"
        | ⟨true, true⟩ =>
            callCode (callCode (fieldCode field.name ++ code ". as_deref") [] ++ code ". and_then")
              [runtime "opaque :: encode_list"]) }

/-- The code of a field of an attribute type. -/
def scalarCode (field : FieldDeclaration) (type : AttributeType) : FieldCode where
  filter :=
    if type = .boolean then filterCode field (runtime "BoolPredicate") (code "boolean")
    else
      filterCode field (angleCode (runtime "ValuePredicate") [field.type.element.tokens])
        (angleCode (code "value ::") [field.type.element.tokens])
  sort := sortCode field (runtime "ValueSorter") (code "sort")
  initializer := decodeCode field "AttributeValue :: from_attribute"
  statement :=
    encodeCode field
      (callCode (runtime "AttributeValue :: to_attribute") [fieldReference field.name])

/-- The code of a field of a class. A field that is not stored is neither filtered nor sorted by, is read as
its default and is not written. -/
def emitted (field : FieldDeclaration) : FieldClass → FieldCode
  | skipped =>
      { filter := []
        sort := []
        initializer := callCode (code ":: core :: default :: Default :: default") []
        statement := [] }
  | scalar type => scalarCode field type
  | reference _ => referenceCode field
  | textual => textualCode field

/-- Every part makes of a field what is made of its class. -/
theorem emitted_eq {field : FieldDeclaration} {kind : FieldClass} (is : kind.Of field)
    : field.emitted = kind.emitted field := by
  obtain ⟨name, declared, ⟨element, shape, type⟩, isId, skip, relation⟩ := field
  cases kind with
  | skipped =>
      obtain rfl : skip = true := is
      rfl
  | scalar type =>
      obtain ⟨rfl, rfl⟩ := is
      cases type <;> rfl
  | reference target =>
      obtain ⟨rfl, rfl⟩ := is
      obtain ⟨_ | _, _ | _⟩ := shape <;> rfl
  | textual =>
      obtain ⟨rfl, rfl⟩ := is
      obtain ⟨_ | _, _ | _⟩ := shape <;> rfl

end FieldClass

-----------------------------------------------------------------------------------------
-- Texts in code
-----------------------------------------------------------------------------------------

mutual
/-- The texts that the string literals in a token stand for. -/
def textsIn : Token → List String
  | .literal text => (stringValue? text).toList
  | .group _ contents => textsOf contents
  | _ => []

/-- The texts that the string literals among tokens and inside of them stand for. -/
def textsOf : List Token → List String
  | [] => []
  | token :: rest => textsIn token ++ textsOf rest
end

@[simp] theorem textsOf_nil : textsOf [] = [] := rfl

@[simp] theorem textsOf_cons (token : Token) (rest : List Token)
    : textsOf (token :: rest) = textsIn token ++ textsOf rest := rfl

@[simp] theorem textsOf_append (first second : List Token)
    : textsOf (first ++ second) = textsOf first ++ textsOf second := by
  induction first with
  | nil => rfl
  | cons token rest ih => rw [List.cons_append, textsOf_cons, ih, textsOf_cons, List.append_assoc]

/-- Names, lifetimes and marks hold no texts. -/
private theorem textsOf_wordTokens (word : String) : textsOf (wordTokens word) = [] := by
  have marks (chars : List Char) : textsOf (marks chars) = [] := by
    induction chars using Source.marks.induct with
    | case1 => rfl
    | case2 => rfl
    | case3 c rest some ih =>
        rw [Source.marks]
        · exact ih
        · exact some
  unfold wordTokens
  split
  · rfl
  · rfl
  · split
    · rfl
    · exact marks _

@[simp] theorem textsOf_code (text : String) : textsOf (code text) = [] := by
  unfold code
  induction text.splitOn " " with
  | nil => rfl
  | cons word words ih => rw [List.flatMap_cons, textsOf_append, textsOf_wordTokens, ih]; rfl

@[simp] theorem textsOf_runtime (path : String) : textsOf (runtime path) = [] := textsOf_code _

@[simp] theorem textsOf_nameCode (name : String) : textsOf (nameCode name) = [] := rfl

@[simp] theorem textsOf_flagCode (flag : Bool) : textsOf (flagCode flag) = [] := rfl

/-- The literal of a text holds the text. -/
@[simp] theorem textsOf_textCode (text : String) : textsOf (textCode text) = [text] := by
  simp [textCode, textsIn, stringValue?_stringLiteral]

@[simp] theorem textsOf_commaSeparated (parts : List (List Token))
    : textsOf (commaSeparated parts) = parts.flatMap textsOf := by
  unfold commaSeparated
  induction parts with
  | nil => rfl
  | cons first rest ih =>
      cases rest with
      | nil => simp [List.intercalate]
      | cons second rest =>
          have step : (code ",").intercalate (first :: second :: rest)
              = first ++ (code "," ++ (code ",").intercalate (second :: rest)) := by
            simp [List.intercalate]
          rw [step, textsOf_append, textsOf_append, textsOf_code, ih]
          rfl

@[simp] theorem textsOf_callCode (function : List Token) (arguments : List (List Token))
    : textsOf (callCode function arguments) = textsOf function ++ arguments.flatMap textsOf := by
  simp [callCode, parens, textsIn]

@[simp] theorem textsOf_orCoercion (key : String) (read : List Token)
    : textsOf (orCoercion key read) = textsOf read ++ [key] := by
  simp [orCoercion]

/-- A stored field is read under its name and no other text, and a field that is not stored under none. -/
private theorem mem_textsOf_initializer {field : FieldDeclaration} {text : String}
    : text ∈ textsOf field.emitted.initializer ↔ field.skipped = false ∧ text = field.name := by
  obtain ⟨kind, is, _⟩ := FieldClass.existsUnique field
  rw [FieldClass.emitted_eq is]
  cases kind with
  | skipped => simp_all [FieldClass.Of, FieldClass.emitted]
  | scalar type =>
      simp [is.1, FieldClass.emitted, FieldClass.scalarCode, FieldClass.decodeCode, recordValue]
  | reference target =>
      simp only [is.1, true_and, FieldClass.emitted, FieldClass.referenceCode]
      split <;> simp [someCode]
  | textual =>
      simp only [is.1, true_and, FieldClass.emitted, FieldClass.textualCode]
      split <;>
        simp [FieldClass.decodeCode, recordValue, someCode, noneCode, braces, textsIn]

/-- A stored field is written under its name once, and a field that is not stored is not. -/
private theorem textsOf_statement (field : FieldDeclaration)
    : textsOf field.emitted.statement = if field.skipped then [] else [field.name] := by
  obtain ⟨kind, is, _⟩ := FieldClass.existsUnique field
  rw [FieldClass.emitted_eq is]
  cases kind with
  | skipped => simp_all [FieldClass.Of, FieldClass.emitted]
  | scalar type =>
      simp [is.1, FieldClass.emitted, FieldClass.scalarCode, FieldClass.encodeCode, fieldReference,
        fieldCode]
  | reference target =>
      simp only [is.1, Bool.false_eq_true, if_false, FieldClass.emitted, FieldClass.referenceCode]
      split <;> simp [FieldClass.storeCode, someCode, fieldReference, fieldCode, brackets, textsIn]
  | textual =>
      simp only [is.1, Bool.false_eq_true, if_false, FieldClass.emitted, FieldClass.textualCode,
        FieldClass.encodeCode]
      split <;> simp [fieldReference, fieldCode]

-----------------------------------------------------------------------------------------
-- The code of an entity
-----------------------------------------------------------------------------------------

/-- The fields that are stored. -/
def EntityDeclaration.stored (entity : EntityDeclaration) : List FieldDeclaration :=
  entity.fields.filter (fun field => !field.skipped)

/-- The parts of an entity's code agree on its fields. -/
structure EntityDeclaration.Agrees (entity : EntityDeclaration) : Prop where
  /-- Every field is of one class, and each part makes of it what is made of the class. -/
  classes
    : ∀ field ∈ entity.fields, ∃ kind : FieldClass,
        kind.Of field
        ∧ (∀ other : FieldClass, other.Of field → other = kind)
        ∧ field.emitted = kind.emitted field
  /-- The accessors in filters are those of the fields, in order. -/
  filters
    : entity.predicateBuilderCode
      = builderCode entity.visibility ("Filter builder for [`" ++ entity.typeName ++ "`].")
          entity.predicateBuilder "PredicateBuilder" "ObjectPredicate"
          (entity.fields.flatMap (·.emitted.filter))
  sorts
    : entity.sortBuilderCode
      = builderCode entity.visibility ("Sort key builder for [`" ++ entity.typeName ++ "`].")
          entity.sortBuilder "SortBuilder" "ObjectSorter" (entity.fields.flatMap (·.emitted.sort))
  /-- Reading an entity initializes each field under its name, in order. -/
  reading
    : entity.readCode
      = callCode (code ":: core :: result :: Result :: Ok")
          [code "Self"
            ++ [braces (commaSeparated (entity.fields.map
              (fun field => nameCode field.name ++ code ":" ++ field.emitted.initializer)))]]
  writing : entity.writeCode = entity.fields.flatMap (·.emitted.statement)
  /-- The keys that are written are the names of the stored fields, once each. -/
  written : textsOf entity.writeCode = entity.stored.map (·.name)
  /-- The keys that are read are those that are written. -/
  read : ∀ key, key ∈ textsOf entity.readCode ↔ key ∈ textsOf entity.writeCode

/-- The parts of the code of any entity agree. -/
theorem EntityDeclaration.agrees (entity : EntityDeclaration) : entity.Agrees := by
  have accessors (emit : Accessor → List Token)
      : entity.accessors.flatMap emit
        = entity.fields.flatMap (fun field => (field.accessor?.map emit).getD []) := by
    unfold accessors
    induction entity.fields with
    | nil => rfl
    | cons field fields ih =>
        cases found : field.accessor? with
        | none => simpa [found] using ih
        | some accessor => simpa [found] using ih
  have written : textsOf entity.writeCode = entity.stored.map (·.name) := by
    have statements : entity.writeCode = entity.fields.flatMap (·.emitted.statement) := rfl
    rw [statements, stored]
    induction entity.fields with
    | nil => rfl
    | cons field fields ih =>
        rw [List.flatMap_cons, textsOf_append, ih, textsOf_statement]
        cases skipped : field.skipped <;> simp [skipped]
  refine ⟨fun field _ => ?_, ?_, ?_, rfl, rfl, written, fun key => ?_⟩
  · obtain ⟨kind, is, only⟩ := FieldClass.existsUnique field
    exact ⟨kind, is, only, FieldClass.emitted_eq is⟩
  · rw [predicateBuilderCode, accessors]
    rfl
  · rw [sortBuilderCode, accessors]
    rfl
  · have initializers : textsOf entity.readCode
        = entity.fields.flatMap (fun field => textsOf field.emitted.initializer) := by
      simp [readCode, FieldDeclaration.emitted, braces, textsIn, List.flatMap_map]
    rw [initializers, written, List.mem_flatMap, List.mem_map]
    simp only [mem_textsOf_initializer, stored, List.mem_filter, Bool.not_eq_true']
    constructor
    · rintro ⟨field, listed, kept, rfl⟩
      exact ⟨field, ⟨listed, kept⟩, rfl⟩
    · rintro ⟨field, ⟨listed, kept⟩, rfl⟩
      exact ⟨field, listed, kept, rfl⟩

end EntityStore.Derive
