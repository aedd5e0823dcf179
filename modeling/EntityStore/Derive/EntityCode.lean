import EntityStore.Derive.Accessor
import EntityStore.Derive.Storage

/-! The code that a declaration of an entity is turned into.
The code has a builder of predicates, a builder of sort keys, and the implementations that read,
write and identify the entity. A declaration with problems is turned into reports of them.
-/

namespace EntityStore.Derive

open Source

/-- An attribute that lets parameters go unused. -/
def unusedCode : List Token :=
  attributeCode (callCode (code "allow") [code "unused_variables"])

/-- A parameter of a function. -/
def parameterCode (name : String) (type : List Token) : List Token :=
  nameCode name ++ code ":" ++ type

namespace EntityDeclaration

/-- The function that reads the entity from a record. -/
def fromRecordCode (entity : EntityDeclaration) : List Token :=
  let parameters :=
    [parameterCode "record" (code "&" ++ runtime "Record"),
      parameterCode "source" (code "& dyn" ++ runtime "RecordSource")]
  let output :=
    angleCode (code ":: core :: result :: Result") [code "Self", runtime "MappingError"]
  unusedCode ++ callCode (code "fn from_record") parameters ++ code "->" ++ output
    ++ [braces entity.readCode]

/-- The function that writes the entity to a record. -/
def updateCode (entity : EntityDeclaration) : List Token :=
  let parameters :=
    [code "& self", parameterCode "object" (runtime "ObjectId"),
      parameterCode "context" (code "& mut" ++ angleCode (runtime "Context") [code "'_"])]
  unusedCode ++ callCode (code "fn update") parameters ++ [braces entity.writeCode]

/-- The function that identifies the entity. -/
def identityCode (field : FieldDeclaration) : List Token :=
  callCode (code "fn identity") [code "& self"] ++ code "->"
    ++ angleCode (code ":: core :: option :: Option") [code "& str"]
    ++ [braces (someCode (fieldReference field.name))]

/-- The implementation for an entity with an identifier. -/
def identifiableCode (entity : EntityDeclaration) (field : FieldDeclaration) : List Token :=
  let key := code "const ID_KEY : & 'static str =" ++ textCode field.key ++ code ";"
  let id := callCode (code "fn id") [code "& self"] ++ code "-> & str"
    ++ [braces (fieldReference field.name)]
  code "impl" ++ runtime "Identifiable" ++ code "for" ++ nameCode entity.typeName
    ++ [braces (key ++ id)]

/-- The implementation that reads and writes the entity. -/
def storageCode (entity : EntityDeclaration) : List Token :=
  let constants :=
    code "const ENTITY_NAME : & 'static str =" ++ textCode entity.name ++ code ";"
      ++ code "type Predicate =" ++ nameCode entity.predicateBuilder ++ code ";"
      ++ code "type Sort =" ++ nameCode entity.sortBuilder ++ code ";"
  let identity := (entity.idField?.map identityCode).getD []
  code "impl" ++ runtime "Entity" ++ code "for" ++ nameCode entity.typeName
    ++ [braces (constants ++ entity.fromRecordCode ++ entity.updateCode ++ identity)]

/-- The code of an entity. -/
def entityCode (entity : EntityDeclaration) : List Token :=
  entity.predicateBuilderCode ++ entity.sortBuilderCode ++ entity.storageCode
    ++ (entity.idField?.map entity.identifiableCode).getD []

end EntityDeclaration

/-- The code that a declaration is turned into. -/
def deriveEntity (source : Declaration) : List Token :=
  match EntityDeclaration.ofDeclaration source with
  | .ok entity => entity.entityCode
  | .error problems => problems.flatMap fun problem => errorCode problem.message

end EntityStore.Derive
