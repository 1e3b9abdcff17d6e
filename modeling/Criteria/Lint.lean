import Criteria.Lint.Contradiction
import Criteria.Lint.Restriction
/-!
Linting a tree: every node is looked at in document order, a group before its children, by the rules
in their order. A condition on an unknown field is reported as such and looked at no further.
-/

namespace Criteria.Lint

/-- A group must have children. -/
def groupFilled : Rule :=
  .onGroups "empty-group" "Warn about groups without any conditions"
    fun ctx g =>
      if g.isEmpty then
        [(Finding.warning "empty-group" "Group has no conditions" ctx.path).suggest
          "Add a condition or remove the group"]
      else []

/-- The rules that come with the linter, in the order in which they report. -/
def standardRules : List Rule :=
  [operatorAllowed, valuePresent, valueTyped, constraintsObeyed, groupFilled, satisfiable]

structure Options where
  rules : List Rule
  /-- The names of rules that are left out. -/
  disabled : List String

namespace Options

def standard : Options := ⟨standardRules, []⟩

def enables (o : Options) (rule : String) : Bool := !o.disabled.contains rule

/-- The rules that are not left out. -/
def enabled (o : Options) : List Rule := o.rules.filter fun r => o.enables r.name

end Options

def unknownFieldRule : String := "unknown-field"

/-- The findings on a condition alone. -/
def conditionFindings (o : Options) (ctx : Context) (c : Condition) : List Finding :=
  match ctx.catalog.get? c.field with
  | none =>
    if o.enables unknownFieldRule then
      [(Finding.error unknownFieldRule ("Unknown field '" ++ c.field ++ "'") ctx.path).suggest
        "Pick a field from the catalog"]
    else []
  | some f => o.enabled.flatMap fun r => r.condition ctx f c

/-- The findings on a group alone. -/
def groupFindings (o : Options) (ctx : Context) (g : Group) : List Finding :=
  o.enabled.flatMap fun r => r.group ctx g

mutual

/-- The findings on a node and all below it; `path` leads to the group around it. -/
def node (o : Options) (catalog : Catalog) (path : List String) : Node → List Finding
  | .condition c => conditionFindings o ⟨catalog, path ++ [c.id]⟩ c
  | .group h children =>
    groupFindings o ⟨catalog, path ++ [h.id]⟩ ⟨h, children⟩
      ++ nodes o catalog (path ++ [h.id]) children

def nodes (o : Options) (catalog : Catalog) (path : List String) : List Node → List Finding
  | [] => []
  | n :: ns => node o catalog path n ++ nodes o catalog path ns

end

/-- The findings on a tree. -/
def tree (t : Tree) (catalog : Catalog) (o : Options) : List Finding := node o catalog [] t.toNode

/-- Whether the standard rules find no error in a tree. -/
def isValid (t : Tree) (catalog : Catalog) : Bool :=
  (tree t catalog .standard).all fun f => !f.isError

end Criteria.Lint
