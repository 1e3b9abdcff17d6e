import Criteria.Catalog
import Criteria.Json
import Criteria.Rendering
/-!
Rule trees as filters of a document store. A filter tests fields and is put together by `$and`,
`$or` and `$not`.
-/

namespace Criteria.Mongo

structure Options where
  /-- Match texts without regard to case. -/
  caseInsensitive : Bool := true
  deriving DecidableEq

inductive Filter where
  | field (name : String) (test : Json)
  | all (filters : List Filter)
  | any (filters : List Filter)
  | not (f : Filter)

namespace Filter

mutual

def toJson : Filter → Json
  | .field name test => .object [(name, test)]
  | .all fs => .object [("$and", .list (toJsons fs))]
  | .any fs => .object [("$or", .list (toJsons fs))]
  | .not f => .object [("$not", f.toJson)]

def toJsons : List Filter → List Json
  | [] => []
  | f :: fs => f.toJson :: toJsons fs

end

end Filter

mutual

/-- A value as it is. -/
def plain : Value → Json
  | .null => .null
  | .bool b => .bool b
  | .number x => .ofNumber x
  | .text s => .text s
  | .list vs => .list (plains vs)

def plains : List Value → List Json
  | [] => []
  | v :: vs => plain v :: plains vs

end

/-- A value on a field: of the type of the field if it can be, else as it is. -/
def value (field : Option Field) (v : Value) : Json :=
  match field.map Field.type with
  | some .number => (v.number?.map .ofNumber).getD (plain v)
  | some .boolean => (v.bool?.map .bool).getD (plain v)
  | some .date => (v.date?.map fun d => .text d.iso).getD (plain v)
  | _ => plain v

/-- The bounds of a range. A value that is no range is both of them. -/
def range (field : Option Field) (v : Value) : Json :=
  let (low, high) := v.range?.getD (v, v)
  .object [("$gte", value field low), ("$lte", value field high)]

/-- Whether a character has a meaning of its own in a regular expression. -/
def isSpecial (c : Char) : Bool :=
  ['\\', '.', '+', '*', '?', '(', ')', '|', '[', ']', '{', '}', '^', '$', '#', '&', '-',
    '~'].contains c

/-- A text as a regular expression that matches just it. -/
def escape (s : String) : String :=
  String.ofList (s.toList.flatMap fun c => if isSpecial c then ['\\', c] else [c])

/-- A match of a value's text with something before and after it. -/
def matching (options : Options) (before : String) (v : Value) (after : String) : Json :=
  let pattern := ("$regex", Json.text (before ++ escape v.plain ++ after))
  .object (if options.caseInsensitive then [("$options", .text "i"), pattern] else [pattern])

/-- The filter of a condition. -/
def condition (catalog : Catalog) (options : Options) (c : Condition) : Filter :=
  let field := catalog.get? c.field
  let v := c.value
  let test (key : String) (j : Json) : Filter := .field c.field (.object [(key, j)])
  match c.operator with
  | .equals => .field c.field (value field v)
  | .notEquals => test "$ne" (value field v)
  | .contains => .field c.field (matching options "" v "")
  | .startsWith => .field c.field (matching options "^" v "")
  | .endsWith => .field c.field (matching options "" v "$")
  | .greaterThan | .after => test "$gt" (value field v)
  | .greaterThanOrEqual => test "$gte" (value field v)
  | .lessThan | .before => test "$lt" (value field v)
  | .lessThanOrEqual => test "$lte" (value field v)
  | .between => .field c.field (range field v)
  | .notBetween => test "$not" (range field v)
  | .isIn => test "$in" (.list (v.items.map (value field)))
  | .notIn => test "$nin" (.list (v.items.map (value field)))
  | .isTrue => .field c.field (.bool true)
  | .isFalse => .field c.field (.bool false)
  | .isEmpty => .any [.field c.field .null, .field c.field (.text "")]
  | .isNotEmpty => .all [test "$ne" .null, test "$ne" (.text "")]

/-- Filters joined by one combinator. A single filter stands for itself. -/
def join (default : Combinator) (first : Filter) (rest : List (Combinator × Filter)) : Filter :=
  match rest with
  | [] => first
  | rest =>
    let filters := first :: rest.map (·.2)
    match (Combinator.uniform? (rest.map (·.1))).getD default with
    | .and => .all filters
    | .or => .any filters

def rendering (catalog : Catalog) (options : Options) : Rendering Filter where
  condition := condition catalog options
  join := join
  nest := id
  negate := .not

/-- The filter of a tree. -/
def filter? (t : Tree) (catalog : Catalog) (options : Options) : Option Filter :=
  t.render? (rendering catalog options)

/-- The filter of a tree as JSON; the empty object for a tree without conditions. -/
def compile (t : Tree) (catalog : Catalog) (options : Options) : Json :=
  ((filter? t catalog options).map Filter.toJson).getD (.object [])

end Criteria.Mongo
