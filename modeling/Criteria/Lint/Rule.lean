import Criteria.Catalog
import Criteria.Lint.Finding
import Criteria.Tree
/-!
What a rule of the linter is.
-/

namespace Criteria.Lint

/-- What a rule can see besides the node it looks at. -/
structure Context where
  catalog : Catalog
  /-- The ids from the root down to the node. -/
  path : List String

structure Rule where
  name : String
  description : String
  /-- Looks at a condition whose field is in the catalog. -/
  condition : Context → Field → Condition → List Finding
  /-- Looks at a group, the root included. -/
  group : Context → Group → List Finding

namespace Rule

/-- A rule on conditions. -/
def onConditions (name description : String)
    (check : Context → Field → Condition → List Finding) : Rule :=
  ⟨name, description, check, fun _ _ => []⟩

/-- A rule on groups. -/
def onGroups (name description : String) (check : Context → Group → List Finding) : Rule :=
  ⟨name, description, fun _ _ _ => [], check⟩

end Rule

end Criteria.Lint
