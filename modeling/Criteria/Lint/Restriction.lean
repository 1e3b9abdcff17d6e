import Criteria.Lint.Operand
import Criteria.Pattern.Marked
import Criteria.Pattern.Parser
/-!
The rule on the constraints of a field: bounds for numbers, lengths and a pattern for texts, and a
test of the caller's for the whole value.
-/

namespace Criteria.Lint

/-- A constraint that a value breaks: a key and the usual message. -/
structure Violation where
  key : String
  message : String
  deriving DecidableEq

/-- Whether a text does not match a pattern. A pattern that cannot be read is passed over. -/
def misses (pattern text : String) : Bool :=
  match Pattern.ofText? pattern with
  | some p => !p.matchesIn text
  | none => false

/-- The constraints of a number field that a number breaks. -/
def numberViolations (label : String) (cs : Constraints) (x : Number) : List Violation :=
  ((cs.min.filter fun b => x < b.value).map fun b =>
    (⟨"min", label ++ " must be at least " ++ b.text⟩ : Violation)).toList
  ++ ((cs.max.filter fun b => b.value < x).map fun b =>
    (⟨"max", label ++ " must be at most " ++ b.text⟩ : Violation)).toList

/-- The constraints of another field that a text breaks. -/
def textViolations (label : String) (cs : Constraints) (s : String) : List Violation :=
  ((cs.minLength.filter fun n => s.length < n).map fun n =>
    (⟨"min-length", label ++ " must be at least " ++ Decimal.natText n ++ " characters"⟩ :
      Violation)).toList
  ++ ((cs.maxLength.filter fun n => n < s.length).map fun n =>
    (⟨"max-length", label ++ " must be at most " ++ Decimal.natText n ++ " characters"⟩ :
      Violation)).toList
  ++ ((cs.pattern.filter fun p => misses p s).map fun _ =>
    (⟨"pattern", label ++ " does not match the expected format"⟩ : Violation)).toList

/-- The constraints of a field that a single value breaks. -/
def violations (f : Field) (cs : Constraints) (v : Value) : List Violation :=
  let label := "'" ++ f.label ++ "'"
  match f.type with
  | .number => (v.number?.map (numberViolations label cs)).getD []
  | _ => (v.text?.map (textViolations label cs)).getD []

/-- The first violation of each key. -/
def firstOfKey : List Violation → List Violation → List Violation
  | kept, [] => kept.reverse
  | kept, v :: vs => firstOfKey (if kept.any (·.key = v.key) then kept else v :: kept) vs

/-- All constraints that the value of a condition breaks. One that both bounds of a range break
counts once. -/
def allViolations (f : Field) (cs : Constraints) (v : Value) : List Violation :=
  firstOfKey [] (v.items.flatMap (violations f cs))
  ++ ((cs.custom.bind (· v)).map fun message => (⟨"custom", message⟩ : Violation)).toList

/-- The finding on a violation, in the words of the constraints if they have any. -/
def Violation.finding (path : List String) (cs : Constraints) (v : Violation) : Finding :=
  let f := (Finding.error "field-constraints" (cs.message.getD v.message) path).withKey v.key
  { f with suggestion := cs.suggestion }

/-- The value must obey the constraints of the field. -/
def constraintsObeyed : Rule :=
  .onConditions "field-constraints" "Values must satisfy the constraints declared on their field"
    fun ctx f c =>
      match f.constraints with
      | none => []
      | some cs =>
        if hasOperand c then (allViolations f cs c.value).map (Violation.finding ctx.path cs)
        else []

end Criteria.Lint
