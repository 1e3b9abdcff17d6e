import Criteria.Catalog
import Criteria.Date.Pattern
import Criteria.Rendering
/-!
Rule trees as English sentences: the label of a field, a phrase for the operator, and the value.
-/

namespace Criteria.Readable

structure Options where
  /-- The pattern that days are written by. -/
  dateFormat : String := "%B %-d, %Y"
  deriving DecidableEq

end Readable

/-- The phrase between the label of a field and the value. -/
def Operator.phrase : Operator → String
  | equals => "equals"
  | notEquals => "does not equal"
  | contains => "contains"
  | startsWith => "starts with"
  | endsWith => "ends with"
  | isEmpty => "is empty"
  | isNotEmpty => "is not empty"
  | greaterThan => "is greater than"
  | greaterThanOrEqual => "is greater than or equal to"
  | lessThan => "is less than"
  | lessThanOrEqual => "is less than or equal to"
  | between => "is between"
  | notBetween => "is not between"
  | before => "is before"
  | after => "is after"
  | isTrue => "is true"
  | isFalse => "is false"
  | isIn => "is one of"
  | notIn => "is not one of"

namespace Readable

/-- A text between double quotes, as it is. -/
def quote (s : String) : String := "\"" ++ s ++ "\""

/-- A single value on a field. -/
def scalar (options : Options) (field : Option Field) (v : Value) : String :=
  match field with
  | none => match v with
    | .text s => quote s
    | v => v.plain
  | some f =>
    let text : Option String := match f.type with
      | .number => v.number?.map Number.text
      | .date => v.date?.map (Date.format options.dateFormat)
      | .boolean => v.bool?.map fun (b : Bool) => if b then "true" else "false"
      | .select => (f.optionLabel? v).map quote
      | .string => none
    text.getD (quote v.plain)

/-- The value of a condition: bounds with `and`, candidates with commas. -/
def value (options : Options) (field : Option Field) (op : Operator) (v : Value) : String :=
  match if op.isRange then v.range? else none with
  | some (low, high) => scalar options field low ++ " and " ++ scalar options field high
  | none => ", ".intercalate (v.items.map (scalar options field))

/-- A condition as a sentence. -/
def sentence (catalog : Catalog) (options : Options) (c : Condition) : String :=
  let start := catalog.label c.field ++ " " ++ c.operator.phrase
  if c.operator.isValueless then start
  else start ++ " " ++ value options (catalog.get? c.field) c.operator c.value

def rendering (catalog : Catalog) (options : Options) : Rendering String where
  condition := sentence catalog options
  join _ first rest :=
    rest.foldl (fun text (c, part) => text ++ " " ++ c.name ++ " " ++ part) first
  nest text := "(" ++ text ++ ")"
  negate text := "NOT (" ++ text ++ ")"

/-- The sentence of a tree; empty for a tree without conditions. -/
def compile (t : Tree) (catalog : Catalog) (options : Options) : String :=
  (t.render? (rendering catalog options)).getD ""

end Readable

end Criteria
