import Criteria.Operator
import Criteria.Value
/-!
The fields that conditions can name, with their types, operators, options and constraints.
-/

namespace Criteria

inductive FieldType where
  | string
  | number
  | date
  | boolean
  | select
  deriving DecidableEq

namespace FieldType

def name : FieldType → String
  | string => "string"
  | number => "number"
  | date => "date"
  | boolean => "boolean"
  | select => "select"

def all : List FieldType := [string, number, date, boolean, select]

/-- The operators that a field of this type offers unless it lists its own. -/
def defaultOperators : FieldType → List Operator
  | string => [.equals, .notEquals, .contains, .startsWith, .endsWith, .isEmpty, .isNotEmpty]
  | number =>
    [.equals, .notEquals, .greaterThan, .greaterThanOrEqual, .lessThan, .lessThanOrEqual,
      .between, .notBetween]
  | date => [.equals, .notEquals, .before, .after, .between, .notBetween]
  | boolean => [.equals, .isTrue, .isFalse]
  | select => [.equals, .notEquals, .isIn, .notIn]

end FieldType

/-- One choice of a select field. -/
structure FieldOption where
  value : String
  label : String
  deriving DecidableEq

/-- A page of choices that a lookup has found. -/
structure OptionPage where
  options : List FieldOption
  hasMore : Bool
  deriving DecidableEq

/-- A bound on numbers. Unlike a number, a bound of zero keeps a minus sign, which its text shows.
-/
structure Bound where
  value : Number
  minusZero : Bool
  minusZero_value : minusZero = true → value = .zero
  deriving DecidableEq

namespace Bound

/-- The bound as text: positional digits, with no fraction on whole numbers. -/
def text (b : Bound) : String :=
  String.ofList (if b.minusZero then ['-', '0'] else b.value.layOut .plain)

end Bound

/-- Restrictions on the values of a field beyond its type. -/
structure Constraints where
  min : Option Bound
  max : Option Bound
  minLength : Option Nat
  maxLength : Option Nat
  /-- A regular expression that texts must match. -/
  pattern : Option String
  /-- What is reported in place of the usual message. -/
  message : Option String
  suggestion : Option String
  /-- A test of the whole value, which gives a message if it fails. -/
  custom : Option (Value → Option String)

namespace Constraints

def none : Constraints :=
  ⟨.none, .none, .none, .none, .none, .none, .none, .none⟩

end Constraints

structure Field where
  name : String
  label : String
  type : FieldType
  allowedOperators : Option (List Operator)
  options : List FieldOption
  constraints : Option Constraints

namespace Field

/-- The operators that conditions on this field may use. -/
def operators (f : Field) : List Operator := f.allowedOperators.getD f.type.defaultOperators

def allows (f : Field) (op : Operator) : Bool := f.operators.contains op

def option? (f : Field) (value : String) : Option FieldOption :=
  f.options.find? (·.value = value)

/-- The label of the option that a value chooses. -/
def optionLabel? (f : Field) (v : Value) : Option String := (f.option? v.plain).map (·.label)

/-- The value that a new condition on this field starts with. -/
def initialValue (today : Date) (f : Field) : Value :=
  match f.type with
  | .string => .text ""
  | .number => .number .zero
  | .boolean => .bool false
  | .date => .ofDate today
  | .select => (f.options.head?.map fun o => Value.text o.value).getD .null

/-- Adds an option unless its value is there already. -/
def addOption (f : Field) (o : FieldOption) : Field :=
  if (f.option? o.value).isSome then f else { f with options := f.options ++ [o] }

end Field

structure Catalog where
  fields : List Field

namespace Catalog

def get? (c : Catalog) (name : String) : Option Field := c.fields.find? (·.name = name)

def first? (c : Catalog) : Option Field := c.fields.head?

/-- The label of a field, or the bare name of an unknown one. -/
def label (c : Catalog) (name : String) : String := ((c.get? name).map (·.label)).getD name

/-- Changes the first field with a name. -/
def modifyFirst (name : String) (f : Field → Field) : List Field → List Field
  | [] => []
  | g :: gs => if g.name = name then f g :: gs else g :: modifyFirst name f gs

/-- Adds the options of a page to a field, those left out whose value it has already. Nothing if
there is no such field. -/
def mergeOptions? (c : Catalog) (name : String) (page : OptionPage) : Option Catalog :=
  if (c.get? name).isSome then
    some ⟨modifyFirst name (fun f => page.options.foldl Field.addOption f) c.fields⟩
  else none

end Catalog

end Criteria
