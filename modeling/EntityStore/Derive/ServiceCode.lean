import EntityStore.Derive.EntityCode
import EntityStore.Derive.SchemaCode

/-! The code that a module of a service is turned into.
The module gets its schema, a trait with the operations of the service, and a client that has them
on a store. A module with problems is left as it is, after reports of them.
-/

namespace EntityStore.Derive

open Source

/-- An operation of a service. -/
structure Operation where
  doc : Option String
  /-- The operation up to its body. -/
  signature : List Token
  /-- What the client does. -/
  body : List Token

namespace Operation

/-- The operation in the trait. -/
def declarationCode (operation : Operation) : List Token :=
  (operation.doc.map docCode).getD [] ++ operation.signature ++ code ";"

/-- The operation of the client. -/
def definitionCode (operation : Operation) : List Token :=
  operation.signature ++ [braces operation.body]

end Operation

/-- The type of a prepared query. -/
def executorCode (entity : List Token) : List Token :=
  angleCode (runtime "QueryExecutor") [entity]

namespace QueryDeclaration

/-- The operation of a query. -/
def operation (query : QueryDeclaration) : Operation :=
  let parameters := query.parameters.map fun (name, type) => parameterCode name type.tokens
  let arguments := query.parameters.map fun (name, _) => nameCode name
  let entity := query.entity.tokens
  { doc := query.doc
    signature :=
      code "fn" ++ nameCode query.name
        ++ [parens (code "& self ," ++ commaSeparated parameters)]
        ++ code "->" ++ executorCode entity
    body :=
      code "let spec =" ++ callCode (nameCode query.name) arguments ++ code ";"
        ++ callCode (angleCode (code "self . store . make_query ::") [entity])
          [callCode (code "spec . make_filter") [], callCode (code "spec . make_sorter") []] }

end QueryDeclaration

namespace EntityDeclaration

/-- A name that ends with the words of the entity's name. -/
def operationName? (entity : EntityDeclaration) (verb : String) : Option String :=
  nameOf? (verb ++ Text.snakeCase entity.name)

/-- A bound on a function that makes something out of a builder of the entity. -/
def builderBound (entity : EntityDeclaration) (builder output : String) : List Token :=
  let target := memberType (.other (nameCode entity.typeName)) builder
  callCode (code ":: core :: ops :: FnOnce") [code "&" ++ target] ++ code "->" ++ nameCode output

/-- The operation that queries the entity. -/
def queryOperation? (entity : EntityDeclaration) : Option Operation := do
  let name ← entity.operationName? "query_"
  let conditions :=
    [parameterCode "F" (entity.builderBound "Predicate" "P"),
      parameterCode "P" (runtime "IntoPredicates"),
      parameterCode "S" (entity.builderBound "Sort" "K"),
      parameterCode "K" (runtime "IntoSortDescriptors")]
  let type := nameCode entity.typeName
  return {
    doc := some ("Query `" ++ entity.name ++ "` records.")
    signature :=
      code "fn" ++ angleCode (nameCode name) [code "F", code "P", code "S", code "K"]
        ++ [parens (code "& self , filter : F , sort : S")] ++ code "->" ++ executorCode type
        ++ code "where" ++ commaSeparated conditions
    body :=
      callCode (angleCode (code "self . store . query ::") [type, code "P", code "K"])
        [code "filter", code "sort"] }

/-- The operation that adds or updates values of the entity. -/
def updateOperation? (entity : EntityDeclaration) : Option Operation := do
  let name ← entity.operationName? "add_or_update_"
  let values := angleCode (code ":: std :: vec :: Vec") [nameCode entity.typeName]
  return {
    doc := some
      ("Insert or update `" ++ entity.name ++ "` records by identifier in one unit of work.")
    signature :=
      callCode (code "async fn" ++ nameCode name)
        [code "& self", parameterCode "entities" values]
    body := callCode (code "self . store . add_or_update") [code "entities"] ++ code ". await ;" }

end EntityDeclaration

namespace ServiceDeclaration

/-- The operations of a service: its own queries, a query for each entity with an identifier, and
an update for each of them. -/
def operations? (service : ServiceDeclaration) : Option (List Operation) := do
  let queries ← service.identifiable.mapM (·.queryOperation?)
  let updates ← service.identifiable.mapM (·.updateOperation?)
  return service.queries.map (·.operation) ++ queries ++ updates

/-- The name of the trait. -/
def traitName? (service : ServiceDeclaration) : Option String :=
  nameOf? (Text.pascalCase service.module ++ "Service")

end ServiceDeclaration

/-- The mark of a trait with operations that wait. -/
def asyncTraitCode : List Token :=
  attributeCode (runtime "async_trait")

/-- The trait with the operations of a model. -/
def traitCode (model trait : String) (operations : List Operation) : List Token :=
  docCode ("Operations of the `" ++ model ++ "` model.") ++ asyncTraitCode ++ code "pub trait"
    ++ nameCode trait ++ code ": :: core :: marker :: Send + :: core :: marker :: Sync"
    ++ [braces (operations.flatMap (·.declarationCode))]

/-- The structure of the client. -/
def clientStructureCode (trait client : String) : List Token :=
  docCode ("[`" ++ trait ++ "`] backed by a [`Store`](::persist_core::Store).") ++ deriveCode
    ++ code "pub struct" ++ nameCode client
    ++ [braces (parameterCode "store" (runtime "Store"))]

/-- How the client is made from a store, and gives it back. -/
def clientMethodsCode (client : String) : List Token :=
  let new :=
    fixedDocCode " Wrap an already opened store." ++ mustUseCode
      ++ callCode (code "pub fn new") [parameterCode "store" (runtime "Store")]
      ++ code "-> Self" ++ [braces (code "Self" ++ [braces (code "store")])]
  let store :=
    fixedDocCode " Underlying store." ++ mustUseCode
      ++ callCode (code "pub fn store") [code "& self"] ++ code "-> &" ++ runtime "Store"
      ++ [braces (code "& self . store")]
  code "impl" ++ nameCode client ++ [braces (new ++ store)]

/-- The operations of the client. -/
def clientOperationsCode (trait client : String) (operations : List Operation) : List Token :=
  asyncTraitCode ++ code "impl" ++ nameCode trait ++ code "for" ++ nameCode client
    ++ [braces (operations.flatMap (·.definitionCode))]

/-- The function that opens a store and gives a client of it. -/
def openCode (client : String) : List Token :=
  let doc :=
    [" Open a store for [`schema`] and wrap it in a client.", "", " # Errors", "",
      " Returns [`StoreError`](::persist_core::StoreError) when the snapshot",
      " cannot be read or the worker cannot start."]
  let output :=
    angleCode (code ":: core :: result :: Result") [nameCode client, runtime "StoreError"]
  let opened :=
    callCode (runtime "Store :: open") [callCode (code "schema") [], code "config"]
  doc.flatMap fixedDocCode
    ++ callCode (code "pub fn open") [parameterCode "config" (runtime "StoreConfig")]
    ++ code "->" ++ output
    ++ [braces (callCode (opened ++ code ". map") [nameCode client ++ code ":: new"])]

/-- The code of a service, if all of its names can be formed. -/
def ServiceDeclaration.serviceCode? (service : ServiceDeclaration) : Option (List Token) := do
  let schema ← service.schemaDescription?
  let operations ← service.operations?
  let trait ← service.traitName?
  let client := bareName trait ++ "Client"
  return schema.schemaCode ++ traitCode service.model trait operations
    ++ clientStructureCode trait client ++ clientMethodsCode client
    ++ clientOperationsCode trait client operations ++ openCode client

/-- What a reader of items says against code, unless it reads the code. -/
abbrev Refusal := List Token → Option String

/-- Code as items, or a report of why it is not read as items. -/
def itemsCode (refusal? : Refusal) (generated : List Token) : List Token :=
  match refusal? generated with
  | some report => errorCode report
  | none => generated

/-- What a module is turned into: reports, and then the module. -/
structure Expansion where
  reports : List Token
  module : Module

/-- The module with further code at its end. -/
def withCode (module : Module) (added : List Token) : Module :=
  { module with
    body := module.body.map fun body =>
      { body with items := body.items ++ [.other added] } }

/-- What a module with an attribute is turned into, where the code for it is read as items again.
There is nothing when a name of the code cannot be formed. -/
def deriveService (refusal? : Refusal) (arguments : List Token) (module : Module)
    : Option Expansion :=
  match readModel arguments >>= (readService · module) with
  | .error problems =>
      some { reports := problems.flatMap fun problem => errorCode problem.message, module }
  | .ok none => some { reports := [], module }
  | .ok (some service) =>
      service.serviceCode?.map fun generated =>
        { reports := [], module := withCode module (itemsCode refusal? generated) }

-----------------------------------------------------------------------------------------
-- Keywords
-----------------------------------------------------------------------------------------

/-- What is said against a variable that is a keyword, with or without the mark of a variable that
changes. -/
def variableRefusal? (mutable : Bool) (word : String) : Option String :=
  if isFree word || word = "self" then none
  else if mutable then some ("expected identifier, found keyword `" ++ word ++ "`")
  else if ["_", "super", "crate", "true", "false"].contains word then none
  else if ["ref", "mut"].contains word then some "expected identifier"
  else if word = "const" then some "expected curly braces"
  else
    some ("expected one of: identifier, `::`, `<`, `_`, literal, `const`, `ref`, `mut`, `&`, "
      ++ "parentheses, square brackets, `..`, `const`")

/-- What is said against the first variable of statements that is a keyword. -/
def statementRefusal? : List Token → Option String
  | [] => none
  | .name "let" :: .name "mut" :: .name word :: rest =>
      (variableRefusal? true word).or (statementRefusal? rest)
  | .name "let" :: .name word :: rest =>
      (variableRefusal? false word).or (statementRefusal? rest)
  | _ :: rest => statementRefusal? rest

/-- What is said against the code of a service. Nothing but its variables can be keywords, and these
stand in the function that makes the schema. -/
def keywordRefusal? : Refusal := fun generated =>
  generated.findSome? fun token =>
    match token with
    | .group .brace body => statementRefusal? body
    | _ => none

end EntityStore.Derive
