import Criteria.Lint.Rule
/-!
Rules on the operator and the value of a condition: the operator is one of the field's, a value is
there if the operator takes one, it has the shape that the operator asks for, and each of its items
is of the type of the field.
-/

namespace Criteria.Lint

/-- The operator must be one that the field allows. -/
def operatorAllowed : Rule :=
  .onConditions "operator-compat" "Conditions must use an operator allowed for their field"
    fun ctx f c =>
      if f.allows c.operator then []
      else
        [(Finding.error "operator-compat"
          ("Operator '" ++ c.operator.name ++ "' is not allowed for " ++ f.type.name ++ " field '"
            ++ f.label ++ "'") ctx.path).suggest
          ("Use one of: " ++ ", ".intercalate (f.operators.map Operator.name))]

/-- Whether the condition has a value to look at. -/
def hasOperand (c : Condition) : Bool := !c.operator.isValueless && !c.value.isMissing

/-- A value must be there unless the operator takes none. -/
def valuePresent : Rule :=
  .onConditions "missing-value" "Conditions must have a value unless the operator is value-less"
    fun ctx f c =>
      if c.operator.isValueless || !c.value.isMissing then []
      else [.error "missing-value" ("'" ++ f.label ++ "' needs a value") ctx.path]

/-- Why the shape of a value does not suit an operator. -/
inductive ShapeFault where
  | noBounds
  | notSingle
  deriving DecidableEq

/-- The items of a value in the shape that an operator asks for: two bounds, any number of
candidates, or a single value. -/
def operands (op : Operator) (v : Value) : Except ShapeFault (List Value) :=
  if op.isRange then
    match v.range? with
    | some (low, high) =>
      if low.isMissing || high.isMissing then .error .noBounds else .ok [low, high]
    | none => .error .noBounds
  else if op.isList then .ok v.items
  else if v.isList then .error .notSingle
  else .ok [v]

/-- Why a value is not of the type of a field. -/
def typeFault? (f : Field) (v : Value) : Option String :=
  let shown := "'" ++ v.plain ++ "'"
  let label := "'" ++ f.label ++ "'"
  match f.type with
  | .number =>
    if v.number?.isSome then none else some (shown ++ " is not a number for " ++ label)
  | .date =>
    if v.date?.isSome then none
    else some (shown ++ " is not a valid date for " ++ label ++ " (expected YYYY-MM-DD)")
  | .boolean =>
    if v.bool?.isSome then none else some (shown ++ " is not true or false for " ++ label)
  | .select =>
    if f.options.isEmpty || (f.option? v.plain).isSome then none
    else some (shown ++ " is not an option of " ++ label)
  | .string => if v.isList then some (label ++ " expects text") else none

/-- The findings on the items of a value, from an index on. -/
def typeFindings (ctx : Context) (f : Field) : Nat → List Value → List Finding
  | _, [] => []
  | index, v :: vs =>
    ((typeFault? f v).map fun message =>
      (Finding.error "value-type" message ctx.path).withKey (Decimal.natText index)).toList
      ++ typeFindings ctx f (index + 1) vs

/-- The value must have the shape of the operator and the type of the field. -/
def valueTyped : Rule :=
  .onConditions "value-type" "Values must match the field type and the operator's expected shape"
    fun ctx f c =>
      let start := "'" ++ f.label ++ "' " ++ c.operator.name
      if !hasOperand c then []
      else match operands c.operator c.value with
        | .error .noBounds =>
          [(Finding.error "value-type" (start ++ " needs a lower and an upper bound")
            ctx.path).suggest "Provide the value as [low, high]"]
        | .error .notSingle => [.error "value-type" (start ++ " takes a single value") ctx.path]
        | .ok vs => typeFindings ctx f 0 vs

end Criteria.Lint
