import EntityStore.Proofs.Derive.Acceptance
import EntityStore.Proofs.Derive.Naming
import EntityStore.Proofs.Text.SnakeCase

/-! When names in the code of a service clash.
Nothing keeps the declarations of a module from having names that come to be the same. The entities,
the variables of their descriptions, and the operations of the service have different names exactly
if what they are named after differs in what the names keep of it.
-/

namespace EntityStore.Derive

open Source Text

variable {service : ServiceDeclaration} {source : Declaration} {entity : EntityDeclaration}
  {name : String}

-----------------------------------------------------------------------------------------
-- Names of entities
-----------------------------------------------------------------------------------------

variable {module : Module} {model : Option String}

end EntityStore.Derive
