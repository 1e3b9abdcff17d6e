import Criteria.Catalog
import Criteria.Rendering
import Criteria.Sql
/-!
Rule trees as SQL. A value becomes a literal of the type of its field; one that is not of that type
becomes its plain text.
-/

namespace Criteria.Sql

structure Options where
  /-- Quote every column name, not only those that need it. -/
  quoteAllIdentifiers : Bool := false
  deriving DecidableEq

/-- The literal of a value on a field; without a field the value decides. -/
def literal (field : Option Field) (v : Value) : Literal :=
  match field.map Field.type, v with
  | some .number, v => (v.number?.map .number).getD (.text v.plain)
  | some .boolean, v => (v.bool?.map .bool).getD (.text v.plain)
  | some .date, v => .text ((v.date?.map Date.iso).getD v.plain)
  | none, .number x => .number x
  | none, .bool b => .bool b
  | none, .null => .null
  | _, v => .text v.plain

/-- The bounds of a range. A value that is no range is both of them. -/
def bounds (field : Option Field) (v : Value) : Literal × Literal :=
  let (low, high) := v.range?.getD (v, v)
  (literal field low, literal field high)

/-- What a condition says of its column. -/
def test (field : Option Field) (op : Operator) (v : Value) : Test :=
  let compare (c : Comparison) : Test := .compare c (literal field v)
  let between (negated : Bool) : Test :=
    let (low, high) := bounds field v
    .between negated low high
  let among (negated : Bool) : Test := .among negated (v.items.map (literal field))
  match op with
  | .equals => compare .equal
  | .notEquals => compare .notEqual
  | .contains => .like ("%" ++ v.plain ++ "%")
  | .startsWith => .like (v.plain ++ "%")
  | .endsWith => .like ("%" ++ v.plain)
  | .isEmpty => .blank
  | .isNotEmpty => .notBlank
  | .greaterThan | .after => compare .greater
  | .greaterThanOrEqual => compare .greaterOrEqual
  | .lessThan | .before => compare .less
  | .lessThanOrEqual => compare .lessOrEqual
  | .between => between false
  | .notBetween => between true
  | .isTrue => .compare .equal (.bool true)
  | .isFalse => .compare .equal (.bool false)
  | .isIn => among false
  | .notIn => among true

def predicate (catalog : Catalog) (options : Options) (c : Condition) : Predicate :=
  ⟨.ofName options.quoteAllIdentifiers c.field,
    test (catalog.get? c.field) c.operator c.value⟩

def rendering (catalog : Catalog) (options : Options) : Rendering Clause where
  condition c := .predicate (predicate catalog options c)
  join _ first rest := .joined first rest
  nest := .nested
  negate := .negated

/-- The clause of a tree. -/
def clause? (t : Tree) (catalog : Catalog) (options : Options) : Option Clause :=
  t.render? (rendering catalog options)

/-- The text of a tree as SQL; empty for a tree without conditions. -/
def compile (t : Tree) (catalog : Catalog) (options : Options) : String :=
  ((clause? t catalog options).map Clause.text).getD ""

end Criteria.Sql
