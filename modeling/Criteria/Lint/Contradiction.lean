import Criteria.Lint.Rule
/-!
Conditions on one number field that cannot hold together: they are joined by an unbroken chain of
AND, and the intervals of numbers that they accept have no number in common.
-/

namespace Criteria.Lint

/-- An end of an interval, which belongs to it or not. -/
structure Limit where
  value : Number
  inclusive : Bool
  deriving DecidableEq

/-- The numbers between two limits; a limit that lacks is no limit. -/
structure Interval where
  low : Option Limit
  high : Option Limit
  deriving DecidableEq

namespace Interval

/-- The numbers that a condition accepts, if it compares with numbers. -/
def of? (op : Operator) (v : Value) : Option Interval :=
  let at? (inclusive : Bool) : Option Limit := v.number?.map (⟨·, inclusive⟩)
  match op with
  | .equals => (at? true).map fun l => ⟨some l, some l⟩
  | .greaterThan => (at? false).map fun l => ⟨some l, none⟩
  | .greaterThanOrEqual => (at? true).map fun l => ⟨some l, none⟩
  | .lessThan => (at? false).map fun l => ⟨none, some l⟩
  | .lessThanOrEqual => (at? true).map fun l => ⟨none, some l⟩
  | .between => do
    let (a, b) ← v.range?
    let a ← a.number?
    let b ← b.number?
    let (low, high) := if a ≤ b then (a, b) else (b, a)
    return ⟨some ⟨low, true⟩, some ⟨high, true⟩⟩
  | _ => none

/-- The stricter of two limits; `stricter` tells whether the first value allows less. -/
def tighter (stricter : Number → Number → Bool) : Option Limit → Option Limit → Option Limit
  | some a, some b =>
    if stricter a.value b.value then some a
    else if stricter b.value a.value then some b
    else some ⟨a.value, a.inclusive && b.inclusive⟩
  | a, none => a
  | none, b => b

/-- Whether two intervals have a number in common. -/
def overlaps (a b : Interval) : Bool :=
  let low := tighter (fun x y => y < x) a.low b.low
  let high := tighter (fun x y => x < y) a.high b.high
  match low, high with
  | some low, some high =>
    low.value < high.value || (low.value = high.value && low.inclusive && high.inclusive)
  | _, _ => true

end Interval

/-- The conditions among the children of a group, split where the connector after a child is not
AND. The last child has no connector after it. -/
def andRuns (combinator : Combinator) : List Condition → List Node → List (List Condition)
  | _, [] => []
  | run, n :: ns =>
    let run := run ++ n.toCondition?.toList
    if ns.isEmpty || n.edge.getD combinator ≠ .and then run :: andRuns combinator [] ns
    else andRuns combinator run ns

/-- A condition on a number field with the interval that it accepts. -/
def ranged? (catalog : Catalog) (c : Condition) : Option (Condition × Interval) := do
  let f ← catalog.get? c.field
  if f.type = .number then
    let i ← Interval.of? c.operator c.value
    return (c, i)
  else failure

/-- All pairs of items of a list, the earlier one first. -/
def pairs {α : Type} : List α → List (α × α)
  | [] => []
  | a :: as => as.map (a, ·) ++ pairs as

/-- Whether two conditions are on one field and accept no number in common. -/
def contradicts (left right : Condition × Interval) : Bool :=
  left.1.field = right.1.field && !left.2.overlaps right.2

/-- The finding on two conditions; it is about the second one. -/
def contradiction (ctx : Context) (left right : Condition) : Finding :=
  let shown (c : Condition) := "'" ++ c.operator.name ++ " " ++ c.value.plain ++ "'"
  let f := (Finding.warning "contradiction"
    ("'" ++ ctx.catalog.label left.field ++ "' cannot satisfy both " ++ shown left ++ " and "
      ++ shown right) (ctx.path ++ [right.id])).suggest
    "Join these conditions with OR or adjust the bounds"
  { f with id := "contradiction:" ++ left.id ++ ":" ++ right.id }

/-- Number conditions that are joined by AND must have a number in common, two by two. -/
def satisfiable : Rule :=
  .onGroups "contradiction"
    "Warn about AND-joined numeric conditions with mutually exclusive bounds"
    fun ctx g =>
      (andRuns g.header.combinator [] g.children).flatMap fun run =>
        ((pairs (run.filterMap (ranged? ctx.catalog))).filter fun (l, r) => contradicts l r).map
          fun (l, r) => contradiction ctx l.1 r.1

end Criteria.Lint
