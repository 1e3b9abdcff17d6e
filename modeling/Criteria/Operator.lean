/-!
The comparisons that a condition can make. Each has a name, by which it is read and written, and a
shape of value that it takes.
-/

namespace Criteria

inductive Operator where
  | equals
  | notEquals
  | contains
  | startsWith
  | endsWith
  | isEmpty
  | isNotEmpty
  | greaterThan
  | greaterThanOrEqual
  | lessThan
  | lessThanOrEqual
  | between
  | notBetween
  | before
  | after
  | isTrue
  | isFalse
  | isIn
  | notIn
  deriving DecidableEq

namespace Operator

/-- All operators in the order in which they are offered. -/
def all : List Operator :=
  [equals, notEquals, contains, startsWith, endsWith, isEmpty, isNotEmpty, greaterThan,
    greaterThanOrEqual, lessThan, lessThanOrEqual, between, notBetween, before, after, isTrue,
    isFalse, isIn, notIn]

def name : Operator → String
  | equals => "equals"
  | notEquals => "notEquals"
  | contains => "contains"
  | startsWith => "startsWith"
  | endsWith => "endsWith"
  | isEmpty => "isEmpty"
  | isNotEmpty => "isNotEmpty"
  | greaterThan => ">"
  | greaterThanOrEqual => ">="
  | lessThan => "<"
  | lessThanOrEqual => "<="
  | between => "between"
  | notBetween => "notBetween"
  | before => "before"
  | after => "after"
  | isTrue => "isTrue"
  | isFalse => "isFalse"
  | isIn => "in"
  | notIn => "notIn"

/-- The operator with a name. -/
def ofName? (s : String) : Option Operator := all.find? (·.name = s)

theorem mem_all (op : Operator) : op ∈ all := by cases op <;> decide

theorem ofName?_name (op : Operator) : ofName? op.name = some op := by cases op <;> decide

/-- Whether the operator takes no value. -/
def isValueless : Operator → Bool
  | isEmpty | isNotEmpty | isTrue | isFalse => true
  | _ => false

/-- Whether the operator takes a lower and an upper bound. -/
def isRange : Operator → Bool
  | between | notBetween => true
  | _ => false

/-- Whether the operator takes a list of candidates. -/
def isList : Operator → Bool
  | isIn | notIn => true
  | _ => false

/-- What is reported for a name that no operator has. -/
def unknownMessage (name : String) : String := "Unknown operator: " ++ name

end Operator

end Criteria
