import EntityStore.Derive.Entity
import EntityStore.Source.Module
import EntityStore.Text.Words

/-! Services as they are declared.
A service is a module. Its entities are the structures that derive the implementations of one, and
its queries are the functions that an attribute marks. Both refer to entities of the module only.
-/

namespace EntityStore.Derive

open Source

/-- A path in a list of implementations to derive. -/
def derivedPath : Parser PathExpr := do
  let path ← pathWithin (descent (← get))
  if path.qualified then failure
  match path.last.arguments with
  | .call => failure
  | _ => return path

/-- The last names of the implementations that an attribute derives, if it is well formed. -/
def derivedNames (self : Attribute) : List String :=
  if self.isNamed "derive" then
    match self.arguments with
    | .list contents => ((readAll (commaList derivedPath) contents).getD []).map (·.last.name)
    | _ => []
  else []

/-- The attributes derive the implementations of an entity. -/
def derivesEntity (attributes : List Attribute) : Bool :=
  (attributes.flatMap derivedNames).contains "Entity"

/-- The declaration that an item has for an entity. -/
def entitySource? : Item → Option Declaration
  | .declaration declaration _ =>
      match declaration.body with
      | .union => none
      | _ => if derivesEntity declaration.attributes then some declaration else none
  | _ => none

/-- The entities of the items, unless one of them has problems. -/
def readEntities (items : List Item) : Option (List EntityDeclaration) :=
  (items.filterMap entitySource?).mapM fun source =>
    (EntityDeclaration.ofDeclaration source).toOption

/-- A problem for each relation of the entities to something else. -/
def unknownTargets (module : String) (entities : List EntityDeclaration) : List Problem :=
  let known := entities.map (·.typeName)
  let targets := (entities.flatMap (·.relationships)).filterMap (·.type.target?)
  (targets.filter (!known.contains ·)).map (.unknownTarget · module)

/-- A query. -/
structure QueryDeclaration where
  name : String
  parameters : List (String × TypeExpr)
  /-- The type of the entity that is queried. -/
  entity : TypeExpr
  doc : Option String
  deriving Repr

/-- An attribute marks a query. -/
def isQuery (attributes : List Attribute) : Bool :=
  attributes.any fun self => self.path.names.getLast? = some "query"

/-- The function of an item that is marked as a query. -/
def querySource? : Item → Option Function
  | .function function _ => if isQuery function.attributes then some function else none
  | _ => none

/-- The name and type of a parameter of a query. -/
def readParameter : Parameter → Except Problem (String × TypeExpr)
  | .receiver => throw .queryReceiver
  | .pattern => throw .queryPattern
  | .named name type => return (name, type)

namespace QueryDeclaration

/-- The query of a function, where the names of the entities are known. -/
def ofFunction (known : List String) (source : Function) : Except Problem QueryDeclaration := do
  if source.isAsync || source.generic then throw .specialQuery
  let parameters ← source.parameters.mapM readParameter
  match source.output.bind (·.argumentOf? "QuerySpec") with
  | none => throw .queryOutput
  | some entity =>
      if (entity.name?.map known.contains).getD false then
        return { name := source.name, parameters, entity, doc := documentation? source.attributes }
      else throw .unknownQueried

end QueryDeclaration

/-- The queries that can be read, and the problems with the others. -/
def readQueries (known : List String) (sources : List Function)
    : List QueryDeclaration × List Problem :=
  let read := sources.map (QueryDeclaration.ofFunction known)
  (read.filterMap Except.toOption, read.filterMap problem?)
where
  /-- The problem with a query. -/
  problem? : Except Problem QueryDeclaration → Option Problem
    | .ok _ => none
    | .error problem => some problem

/-- A service. -/
structure ServiceDeclaration where
  /-- The name of the module. -/
  module : String
  model : String
  entities : List EntityDeclaration
  queries : List QueryDeclaration
  deriving Repr

namespace ServiceDeclaration

/-- The entities with an identifier. -/
def identifiable (service : ServiceDeclaration) : List EntityDeclaration :=
  service.entities.filter (·.idField?.isSome)

/-- The first entity whose structure has a name. -/
def entity? (service : ServiceDeclaration) (typeName : String) : Option EntityDeclaration :=
  service.entities.find? (·.typeName = typeName)

end ServiceDeclaration

/-- The name of the model in the arguments of the attribute, or what is wrong with them. -/
def readModel (arguments : List Token) : Except (List Problem) (Option String) :=
  let found := TextSetting.empty.takeList "model" arguments
  if found.problems.isEmpty then .ok found.text else .error found.problems

/-- The service of a module, unless an entity of its has problems. -/
def readService (model : Option String) (module : Module)
    : Except (List Problem) (Option ServiceDeclaration) :=
  match module.body with
  | none => .error [.noModuleBody]
  | some body =>
      match readEntities body.items with
      | none => .ok none
      | some entities =>
          let known := entities.map (·.typeName)
          let (queries, problems) := readQueries known (body.items.filterMap querySource?)
          match unknownTargets module.name entities ++ problems with
          | [] =>
              .ok (some
                { module := module.name
                  model := model.getD (Text.pascalCase module.name)
                  entities
                  queries })
          | problems => .error problems

end EntityStore.Derive
