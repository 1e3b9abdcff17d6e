import Criteria.Mongo
import Criteria.Proofs.Lint.Valid
import Criteria.Sql.Compile

namespace Criteria

/-- What a value in a query stands for, in whatever language it is written. A number is a whole
multiple of the least positive one. -/
inductive Scalar where
  | null
  | bool (b : Bool)
  | number (units : Int)
  | text (s : String)
  deriving DecidableEq

/-- The number of least steps in a numeral. -/
def Numeral.units : Numeral → Int
  | .int n => n * Nat.pow 2 1074
  | .real x => x.units
  | .negativeZero => 0

theorem Number.units_of_integer? {x : Number} {n : Int} (h : x.integer? = some n) :
    n * Nat.pow 2 1074 = x.units := by
  obtain ⟨h, -⟩ := Option.filter_eq_some_iff.1 h
  rw [toInt?] at h
  split at h
  · next hdvd =>
    have hsteps : x.steps / Nat.pow 2 1074 * Nat.pow 2 1074 = x.steps :=
      Nat.div_mul_cancel (Nat.dvd_of_mod_eq_zero hdvd)
    have hint : ((x.steps / Nat.pow 2 1074 : Nat) : Int) * Nat.pow 2 1074 = x.steps := by
      rw [← Int.natCast_mul, hsteps]
    rw [units]
    cases h
    split
    · rw [Int.neg_mul, hint]
    · exact hint
  · cases h

namespace Sql

def Literal.scalar : Literal → Scalar
  | .number x => .number x.units
  | .bool b => .bool b
  | .text s => .text s
  | .null => .null

/-- The literals that a test compares its column with. -/
def Test.literals : Test → List Literal
  | .compare _ l => [l]
  | .between _ low high => [low, high]
  | .among _ items => items
  | .like _ | .blank | .notBlank => []

end Sql

/-- What a JSON value stands for; a list or an object stands for no scalar. -/
def Json.scalar? : Json → Option Scalar
  | .null => some .null
  | .bool b => some (.bool b)
  | .number n => some (.number n.units)
  | .text s => some (.text s)
  | .list _ | .object _ => none

theorem Json.scalar?_ofNumber (x : Number) :
    (Json.ofNumber x).scalar? = some (.number x.units) := by
  rw [ofNumber]
  split
  · next h => exact congrArg (fun units => some (Scalar.number units)) (Number.units_of_integer? h)
  · rfl

namespace Mongo

/-- The values that a test compares its field with. -/
def literals : Json → List Json
  | .object [("$in", .list js)] | .object [("$nin", .list js)] => js
  | .object [("$gte", low), ("$lte", high)] => [low, high]
  | .object [("$not", .object [("$gte", low), ("$lte", high)])] => [low, high]
  | .object [(_, j)] => [j]
  | j => [j]

def Filter.literals : Filter → List Json
  | .field _ test => Mongo.literals test
  | .all _ | .any _ | .not _ => []

theorem literals_ofNumber (x : Number) : literals (.ofNumber x) = [.ofNumber x] := by
  rw [Json.ofNumber]
  split <;> rfl

theorem literals_plain (v : Value) : literals (plain v) = [plain v] := by
  cases v with
  | number x => exact literals_ofNumber x
  | null | bool | text | list => rfl

theorem literals_value (field : Option Field) (v : Value) :
    literals (value field v) = [value field v] := by
  rw [value]
  split
  · cases v.number? with
    | none => exact literals_plain v
    | some x => exact literals_ofNumber x
  · cases v.bool? with
    | none => exact literals_plain v
    | some b => rfl
  · cases v.date? with
    | none => exact literals_plain v
    | some d => rfl
  · exact literals_plain v

end Mongo

/-- Whether a condition with this operator compares with its value, and not with a pattern made of
it or with nothing. -/
def Operator.takesLiteral : Operator → Bool
  | equals | notEquals | greaterThan | greaterThanOrEqual | lessThan | lessThanOrEqual | between
  | notBetween | before | after | isIn | notIn => true
  | contains | startsWith | endsWith | isEmpty | isNotEmpty | isTrue | isFalse => false

theorem isValueless_of_takesLiteral {op : Operator} (h : op.takesLiteral = true) :
    op.isValueless = false := by
  revert h
  cases op <;> decide

namespace FieldType

/-- Whether the values of a field of this type are texts. -/
def holdsText : FieldType → Bool
  | string | select => true
  | number | date | boolean => false

end FieldType

namespace Field

/-- What a value means on a field, if it can be of the type of the field. -/
def scalar? (f : Field) (v : Value) : Option Scalar :=
  match f.type with
  | .number => v.number?.map fun x => .number x.units
  | .boolean => v.bool?.map .bool
  | .date => v.date?.map fun d => .text d.iso
  | .string | .select => some (.text v.plain)

variable {f : Field} {v : Value}

theorem isSome_scalar? (h : Lint.typeFault? f v = none) : (f.scalar? v).isSome = true := by
  obtain ⟨name, label, type, operators, options, constraints⟩ := f
  cases type with
  | string | select => rfl
  | number =>
    have hx : v.number?.isSome = true :=
      Decidable.byContradiction fun hx => nomatch (if_neg hx).symm.trans h
    exact Option.isSome_map.trans hx
  | boolean =>
    have hb : v.bool?.isSome = true :=
      Decidable.byContradiction fun hb => nomatch (if_neg hb).symm.trans h
    exact Option.isSome_map.trans hb
  | date =>
    have hd : v.date?.isSome = true :=
      Decidable.byContradiction fun hd => nomatch (if_neg hd).symm.trans h
    exact Option.isSome_map.trans hd

/-- The SQL literal of a value stands for what the value means on the field. -/
theorem scalar_literal {a : Scalar} (h : f.scalar? v = some a) :
    (Sql.literal (some f) v).scalar = a := by
  obtain ⟨name, label, type, operators, options, constraints⟩ := f
  cases type with
  | string | select => exact Option.some.inj h
  | number =>
    obtain ⟨x, hx, rfl⟩ := Option.map_eq_some_iff.1 h
    change ((v.number?.map Sql.Literal.number).getD _).scalar = _
    rw [hx]
    rfl
  | boolean =>
    obtain ⟨b, hb, rfl⟩ := Option.map_eq_some_iff.1 h
    change ((v.bool?.map Sql.Literal.bool).getD _).scalar = _
    rw [hb]
    rfl
  | date =>
    obtain ⟨d, hd, rfl⟩ := Option.map_eq_some_iff.1 h
    change Scalar.text ((v.date?.map Date.iso).getD v.plain) = _
    rw [hd]
    rfl

theorem scalar?_plain : (Mongo.plain v).scalar? = some (.text v.plain) ↔ v.text?.isSome = true := by
  cases v with
  | text s => exact ⟨fun _ => rfl, fun _ => rfl⟩
  | number x =>
    simp only [Mongo.plain, Json.scalar?_ofNumber, Value.text?, Option.some.injEq, reduceCtorEq,
      Option.isSome_none, Bool.false_eq_true]
  | null | bool | list =>
    simp only [Mongo.plain, Json.scalar?, Value.text?, Option.some.injEq, reduceCtorEq,
      Option.isSome_none, Bool.false_eq_true]

theorem scalar?_value {a : Scalar} (h : f.scalar? v = some a) :
    (Mongo.value (some f) v).scalar? = some a
      ↔ f.type.holdsText = false ∨ v.text?.isSome = true := by
  obtain ⟨name, label, type, operators, options, constraints⟩ := f
  cases type with
  | string | select =>
    cases h
    exact scalar?_plain.trans ⟨.inr, fun h => h.resolve_left fun h => nomatch h⟩
  | number =>
    obtain ⟨x, hx, rfl⟩ := Option.map_eq_some_iff.1 h
    refine ⟨fun _ => .inl rfl, fun _ => ?_⟩
    change ((v.number?.map Json.ofNumber).getD _).scalar? = _
    rw [hx]
    exact Json.scalar?_ofNumber x
  | boolean =>
    obtain ⟨b, hb, rfl⟩ := Option.map_eq_some_iff.1 h
    refine ⟨fun _ => .inl rfl, fun _ => ?_⟩
    change ((v.bool?.map Json.bool).getD _).scalar? = _
    rw [hb]
    rfl
  | date =>
    obtain ⟨d, hd, rfl⟩ := Option.map_eq_some_iff.1 h
    refine ⟨fun _ => .inl rfl, fun _ => ?_⟩
    change ((v.date?.map fun d => Json.text d.iso).getD _).scalar? = _
    rw [hd]
    rfl

end Field

/-- The literals and the values of a condition are those of the items of its value, in order. -/
theorem literals_eq {c : Condition} {f : Field} {vs : List Value} {catalog : Catalog}
    (hf : catalog.get? c.field = some f) (hop : c.operator.takesLiteral = true)
    (hvs : Lint.operands c.operator c.value = .ok vs) (o : Sql.Options) (m : Mongo.Options) :
    (Sql.predicate catalog o c).test.literals = vs.map (Sql.literal (some f)) ∧
      (Mongo.condition catalog m c).literals = vs.map (Mongo.value (some f)) := by
  obtain ⟨id, field, operator, value, edge⟩ := c
  rw [Sql.predicate, Mongo.condition]
  dsimp only at hf hop hvs ⊢
  rw [hf]
  cases operator
  case contains | startsWith | endsWith | isEmpty | isNotEmpty | isTrue | isFalse => cases hop
  case between | notBetween =>
    obtain ⟨low, high, hv, rfl⟩ := Lint.range?_of_operands rfl hvs
    constructor
    · simp only [Sql.test, Sql.bounds, hv]
      rfl
    · simp only [Mongo.range, hv]
      rfl
  case equals =>
    obtain rfl := Lint.single_of_operands rfl rfl hvs
    exact ⟨rfl, Mongo.literals_value (some f) value⟩
  case isIn | notIn =>
    obtain rfl := Lint.items_of_operands rfl rfl hvs
    exact ⟨rfl, rfl⟩
  all_goals
    obtain rfl := Lint.single_of_operands rfl rfl hvs
    exact ⟨rfl, rfl⟩

/-- In a tree that the linter accepts, the SQL literals of a condition stand for what the items of
its value mean on its field. Its Mongo values stand for the same if and only if the field does not
hold texts or all items are texts: any other item of a field that holds texts stays what it is. -/
theorem literals_agree_iff {t : Tree} {catalog : Catalog} {c : Condition}
    (hv : Lint.isValid t catalog = true) (hc : c ∈ t.conditions)
    (hop : c.operator.takesLiteral = true) (o : Sql.Options) (m : Mongo.Options) :
    ∃ f vs, catalog.get? c.field = some f ∧ Lint.operands c.operator c.value = .ok vs ∧
      (Sql.predicate catalog o c).test.literals.map (some ·.scalar) = vs.map f.scalar? ∧
      ((Mongo.condition catalog m c).literals.map (·.scalar?)
          = (Sql.predicate catalog o c).test.literals.map (some ·.scalar)
        ↔ f.type.holdsText = false ∨ ∀ v ∈ vs, v.text?.isSome = true) := by
  obtain ⟨f, vs, hf, hvs, htyped⟩ :=
    Lint.operands_of_isValid hv hc (isValueless_of_takesLiteral hop)
  obtain ⟨hsql, hmongo⟩ := literals_eq hf hop hvs o m
  have hmeaning : ∀ v ∈ vs, ∃ a, f.scalar? v = some a := fun v hm =>
    Option.isSome_iff_exists.1 (Field.isSome_scalar? (htyped v hm))
  have hliteral : (Sql.predicate catalog o c).test.literals.map (some ·.scalar)
      = vs.map f.scalar? := by
    rw [hsql, List.map_map]
    refine List.map_congr_left fun v hm => ?_
    obtain ⟨a, ha⟩ := hmeaning v hm
    rw [ha, ← Field.scalar_literal ha]
    rfl
  refine ⟨f, vs, hf, hvs, hliteral, ?_⟩
  rw [hliteral, hmongo, List.map_map, List.map_inj_left]
  constructor
  · intro h
    cases htext : f.type.holdsText with
    | false => exact .inl rfl
    | true =>
      refine .inr fun v hm => ?_
      obtain ⟨a, ha⟩ := hmeaning v hm
      have hvalue := (Field.scalar?_value ha).1 ((h v hm).trans ha)
      exact hvalue.resolve_left fun hf => Bool.noConfusion (htext.symm.trans hf)
  · intro h v hm
    obtain ⟨a, ha⟩ := hmeaning v hm
    exact ((Field.scalar?_value ha).2 (h.imp_right fun h => h v hm)).trans ha.symm

/-- A number between one that is given as such and one that is given as text. -/
theorem literals_agree_on_numbers :
    let one : Number := ⟨false, Nat.pow 2 52, 1022, by decide, by decide, by decide, by decide⟩
    let c : Condition := ⟨"c", "age", .between, .list [.number one, .text " 2.5 "], none⟩
    let t : Tree := ⟨⟨"r", .and, false, none⟩, [.condition c]⟩
    let catalog : Catalog := ⟨[⟨"age", "Age", .number, none, [], none⟩]⟩
    Lint.isValid t catalog = true ∧
      (Mongo.condition catalog {} c).literals.map (·.scalar?)
        = (Sql.predicate catalog {} c).test.literals.map (some ·.scalar) := by
  intro one c t catalog
  have hv : Lint.isValid t catalog = true := by decide +kernel
  obtain ⟨f, vs, hf, -, -, hagree⟩ :=
    literals_agree_iff hv (List.mem_singleton.2 rfl) rfl {} {}
  cases hf
  exact ⟨hv, hagree.2 (.inl rfl)⟩

/-- A number on a field that holds texts: in SQL it is its text, in Mongo it is still a number. -/
theorem number_on_text_field :
    let five : Number := ⟨false, 5 * Nat.pow 2 50, 1024, by decide, by decide, by decide, by decide⟩
    let c : Condition := ⟨"c", "name", .equals, .number five, none⟩
    let t : Tree := ⟨⟨"r", .and, false, none⟩, [.condition c]⟩
    let catalog : Catalog := ⟨[⟨"name", "Name", .string, none, [], none⟩]⟩
    Lint.isValid t catalog = true ∧ c ∈ t.conditions ∧
      (Sql.predicate catalog {} c).test.literals.map (·.scalar) = [.text "5"] ∧
      (Mongo.condition catalog {} c).literals.map (·.scalar?)
        = [some (.number (5 * Nat.pow 2 1074))] := by
  intro five c t catalog
  exact ⟨by decide +kernel, List.mem_singleton.2 rfl, by decide +kernel, by decide +kernel⟩

end Criteria
