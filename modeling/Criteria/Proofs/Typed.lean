import Criteria.Export
import Criteria.Proofs.Literals
import Criteria.Proofs.Number.Spelled
import Mathlib.Data.List.Forall2

namespace Criteria

/-- A value of a type that is not text. -/
inductive Typed where
  | number (x : Number)
  | bool (b : Bool)
  | date (d : Date)

namespace Typed

def sql : Typed → Sql.Literal
  | number x => .number x
  | bool b => .bool b
  | date d => .text d.iso

def mongo : Typed → Json
  | number x => .ofNumber x
  | bool b => .bool b
  | date d => .text d.iso

def readable (o : Readable.Options) : Typed → String
  | number x => x.text
  | bool b => if b then "true" else "false"
  | date d => d.format o.dateFormat

/-- Whether a token of SQL says a value: a numeral without exponent that is read as the number, the
word for the truth value, or the text of the day. -/
inductive IsSaidBy : Typed → Sql.Token → Prop where
  | number {x : Number} {s : String} (hs : IsNumeral s.toList)
    (hx : Number.ofChars? s.toList = some x) : IsSaidBy (number x) (.word s)
  | bool (b : Bool) : IsSaidBy (bool b) (.word (if b then "TRUE" else "FALSE"))
  | date (d : Date) : IsSaidBy (date d) (.text d.iso)

theorem isSaidBy_sql (a : Typed) : a.IsSaidBy a.sql.token := by
  cases a with
  | number x => exact .number x.isNumeral_text x.ofChars?_text
  | bool b => exact .bool b
  | date d => exact .date d

end Typed

namespace Field

/-- The view of a value that the type of a field asks for, unless that is text. -/
def typed? (f : Field) (v : Value) : Option Typed :=
  match f.type with
  | .number => v.number?.map .number
  | .boolean => v.bool?.map .bool
  | .date => v.date?.map .date
  | .string | .select => none

variable {f : Field} {v : Value} {a : Typed}

theorem exists_typed (hf : f.type.holdsText = false) (h : f.Admits v) :
    ∃ a, f.typed? v = some a := by
  obtain ⟨name, label, type, operators, options, constraints⟩ := f
  cases type with
  | string | select => cases hf
  | number =>
    obtain ⟨x, hx⟩ := h
    exact ⟨.number x, congrArg (Option.map _) hx⟩
  | boolean =>
    obtain ⟨b, hb⟩ := h
    exact ⟨.bool b, congrArg (Option.map _) hb⟩
  | date =>
    obtain ⟨d, hd⟩ := h
    exact ⟨.date d, congrArg (Option.map _) hd⟩

theorem written_typed (h : f.typed? v = some a) (o : Readable.Options) :
    Sql.literal (some f) v = a.sql ∧ Mongo.value (some f) v = a.mongo ∧
      Readable.scalar o (some f) v = a.readable o := by
  obtain ⟨name, label, type, operators, options, constraints⟩ := f
  cases type with
  | string | select => cases h
  | number =>
    obtain ⟨x, hx, rfl⟩ := Option.map_eq_some_iff.1 h
    simp only [Sql.literal, Mongo.value, Readable.scalar, Option.map_some, hx, Option.getD_some,
      Typed.sql, Typed.mongo, Typed.readable, and_self]
  | boolean =>
    obtain ⟨b, hb, rfl⟩ := Option.map_eq_some_iff.1 h
    simp only [Sql.literal, Mongo.value, Readable.scalar, Option.map_some, hb, Option.getD_some,
      Typed.sql, Typed.mongo, Typed.readable, and_self]
  | date =>
    obtain ⟨d, hd, rfl⟩ := Option.map_eq_some_iff.1 h
    simp only [Sql.literal, Mongo.value, Readable.scalar, Option.map_some, hd, Option.getD_some,
      Typed.sql, Typed.mongo, Typed.readable, and_self]

theorem exists_typed_items {items : List Value} (hf : f.type.holdsText = false)
    (h : ∀ i ∈ items, f.Admits i) : ∃ as : List Typed, items.map f.typed? = as.map some := by
  induction items with
  | nil => exact ⟨[], rfl⟩
  | cons i items ih =>
    obtain ⟨a, ha⟩ := exists_typed hf (h i List.mem_cons_self)
    obtain ⟨as, has⟩ := ih fun j hj => h j (List.mem_cons_of_mem _ hj)
    exact ⟨a :: as, by rw [List.map_cons, List.map_cons, ha, has]⟩

theorem map_written {β : Type} {items : List Value} {as : List Typed} {g : Value → β}
    {k : Typed → β} (h : items.map f.typed? = as.map some)
    (hg : ∀ v a, f.typed? v = some a → g v = k a) : items.map g = as.map k := by
  induction items generalizing as with
  | nil =>
    cases as with
    | nil => rfl
    | cons a as => cases h
  | cons i items ih =>
    cases as with
    | nil => cases h
    | cons a as =>
      obtain ⟨ha, has⟩ := List.cons.inj h
      rw [List.map_cons, List.map_cons, hg i a ha, ih has]

theorem scalar_option (hf : f.type = .select) (hne : f.options ≠ []) (h : f.Admits v)
    (o : Readable.Options) : ∃ p ∈ f.options, p.value = v.plain ∧
      Readable.scalar o (some f) v = Readable.quote p.label := by
  obtain ⟨name, label, type, operators, options, constraints⟩ := f
  cases hf
  have hfound : (options.find? (·.value = v.plain)).isSome = true := by
    simpa only [List.find?_isSome, decide_eq_true_eq] using h.resolve_left hne
  obtain ⟨p, hp⟩ := Option.isSome_iff_exists.1 hfound
  refine ⟨p, List.mem_of_find?_eq_some hp, ?_, ?_⟩
  · simpa only [decide_eq_true_eq] using List.find?_some hp
  · simp only [Readable.scalar, Field.optionLabel?, Field.option?, hp, Option.map_some,
      Option.getD_some]

end Field

theorem Readable.value_of_carries {op : Operator} {v : Value} {items : List Value}
    (h : op.Carries v items) (o : Readable.Options) (field : Option Field) :
    Readable.value o field op v
      = (if op.isRange then " and " else ", ").intercalate (items.map (scalar o field)) := by
  have hitems : v.items = items := Lint.items_of_carries h
  cases h with
  | bounds hop =>
    rw [value, hop]
    rfl
  | candidates hop =>
    have hrange : op.isRange = false := by
      revert hop
      cases op <;> decide
    rw [value, hrange]
    rfl
  | single hrange =>
    rw [value, hrange, ← hitems]
    rfl

namespace Condition

/-- Whether the items of a condition are written as these in all three languages. In SQL and in
Mongo that is where the condition takes its value as a literal, in sentences with any operator. -/
structure WritesItems (catalog : Catalog) (o : Export.Options) (c : Condition) (f : Field)
    (as : List Typed) : Prop where
  sql : c.operator.takesLiteral = true →
    (Sql.predicate catalog o.sql c).test.literals = as.map Typed.sql
  said : c.operator.takesLiteral = true →
    List.Forall₂ Typed.IsSaidBy as ((Sql.predicate catalog o.sql c).test.literals.map (·.token))
  mongo : c.operator.takesLiteral = true →
    (Mongo.condition catalog o.mongo c).literals = as.map Typed.mongo
  sentence : Readable.sentence catalog o.readable c = f.label ++ " " ++ c.operator.phrase ++ " "
    ++ (if c.operator.isRange then " and " else ", ").intercalate
      (as.map (Typed.readable o.readable))

/-- Whether a condition is written with these bounds, and they are those of its value. -/
structure WritesBounds (catalog : Catalog) (o : Export.Options) (c : Condition) (f : Field)
    (low high : Value) : Prop where
  value : c.value = .list [low, high]
  sql : (Sql.predicate catalog o.sql c).test = .between (c.operator = .notBetween)
    (Sql.literal (some f) low) (Sql.literal (some f) high)
  mongo : Mongo.condition catalog o.mongo c = .field c.field
    (let range := Json.object
      [("$gte", Mongo.value (some f) low), ("$lte", Mongo.value (some f) high)]
    if c.operator = .notBetween then .object [("$not", range)] else range)
  sentence : Readable.value o.readable (some f) c.operator c.value
    = Readable.scalar o.readable (some f) low ++ " and " ++ Readable.scalar o.readable (some f) high

variable {catalog : Catalog} {c : Condition} {f : Field}

theorem writesItems {items : List Value} {as : List Typed} (hf : catalog.get? c.field = some f)
    (hop : c.operator.isValueless = false) (hitems : c.operator.Carries c.value items)
    (has : items.map f.typed? = as.map some) (o : Export.Options) :
    c.WritesItems catalog o f as := by
  have hwritten := fun v a (h : f.typed? v = some a) => Field.written_typed h o.readable
  have hsql := Field.map_written has fun v a h => (hwritten v a h).1
  have hmongo := Field.map_written has fun v a h => (hwritten v a h).2.1
  have hreadable := Field.map_written has fun v a h => (hwritten v a h).2.2
  have hlabel : catalog.label c.field = f.label := by
    rw [Catalog.label, hf]
    rfl
  have hliterals (hlit : c.operator.takesLiteral = true) :
      (Sql.predicate catalog o.sql c).test.literals = as.map Typed.sql := by
    rw [← hsql]
    exact (literals_eq hf hlit (Lint.operands_eq_ok.2 hitems) o.sql o.mongo).1
  refine ⟨hliterals, fun hlit => ?_, fun hlit => ?_, ?_⟩
  · rw [hliterals hlit, List.map_map, List.forall₂_map_right_iff, List.forall₂_same]
    exact fun a _ => a.isSaidBy_sql
  · rw [← hmongo]
    exact (literals_eq hf hlit (Lint.operands_eq_ok.2 hitems) o.sql o.mongo).2
  · rw [Readable.sentence, hop, hlabel, hf, Readable.value_of_carries hitems, hreadable]
    rfl

theorem writesBounds {low high : Value} (hf : catalog.get? c.field = some f)
    (hop : c.operator.isRange = true) (hv : c.value = .list [low, high]) (o : Export.Options) :
    c.WritesBounds catalog o f low high := by
  obtain ⟨id, field, operator, value, edge⟩ := c
  dsimp only at hf hop hv
  subst hv
  cases operator
  case between | notBetween =>
    refine ⟨rfl, ?_, ?_, rfl⟩
    · rw [Sql.predicate]
      dsimp only
      rw [hf]
      rfl
    · rw [Mongo.condition]
      dsimp only
      rw [hf]
      rfl
  all_goals cases hop

end Condition

theorem Operator.Carries.exists_bounds {op : Operator} {v : Value} {items : List Value}
    (h : op.Carries v items) (hop : op.isRange = true) : ∃ low high, v = .list [low, high] := by
  cases h with
  | @bounds low high => exact ⟨low, high, rfl⟩
  | candidates hlist => cases hlist.symm.trans (Lint.isList_of_isRange hop)
  | single hrange => cases hop.symm.trans hrange

/-- In a tree that the linter accepts, all items of a condition on a field of numbers, days or
Booleans are written in the type of the field. On fields with known options sentences show the
labels of options. Ranges have their own two bounds, in order. -/
theorem valid_values_written_typed {t : Tree} {catalog : Catalog} {c : Condition}
    (hv : Lint.isValid t catalog = true) (hc : c ∈ t.conditions)
    (hop : c.operator.isValueless = false) (o : Export.Options) :
    ∃ f items, catalog.get? c.field = some f ∧ c.operator.Carries c.value items ∧
      (f.type.holdsText = false → ∃ as : List Typed, items.map f.typed? = as.map some ∧
        c.WritesItems catalog o f as) ∧
      (f.type = .select → f.options ≠ [] → ∀ i ∈ items, ∃ p ∈ f.options, p.value = i.plain ∧
        Readable.scalar o.readable (some f) i = Readable.quote p.label) ∧
      (c.operator.isRange = true → ∃ low high, c.WritesBounds catalog o f low high) := by
  have hconforms : c.Conforms catalog :=
    (Lint.clean_node t.toNode []).1 (Lint.isValid_iff_clean.1 hv) c hc
  obtain ⟨f, hf, -, hvalue⟩ := hconforms
  obtain ⟨-, items, hitems, hadmits, -⟩ := hvalue.resolve_left (Bool.not_eq_true _ ▸ hop)
  refine ⟨f, items, hf, hitems, ?_, ?_, ?_⟩
  · intro htext
    obtain ⟨as, has⟩ := Field.exists_typed_items htext hadmits
    exact ⟨as, has, Condition.writesItems hf hop hitems has o⟩
  · intro hselect hne i hi
    exact Field.scalar_option hselect hne (hadmits i hi) o.readable
  · intro hrange
    obtain ⟨low, high, hbounds⟩ := hitems.exists_bounds hrange
    exact ⟨low, high, Condition.writesBounds hf hrange hbounds o⟩

/-- Not between a number that is given as such and one that is given as text. -/
theorem valid_values_written_typed_range :
    let low : Number := ⟨false, Nat.pow 2 52, 1022, by decide, by decide, by decide, by decide⟩
    let high : Number := ⟨false, 5 * Nat.pow 2 50, 1023, by decide, by decide, by decide, by decide⟩
    let c : Condition := ⟨"c", "age", .notBetween, .list [.number low, .text " 2.50 "], none⟩
    let t : Tree := ⟨⟨"r", .and, false, none⟩, [.condition c]⟩
    let f : Field := ⟨"age", "Age", .number, none, [], none⟩
    Lint.isValid t ⟨[f]⟩ = true ∧ c ∈ t.conditions ∧ c.operator.isValueless = false ∧
      (Sql.predicate ⟨[f]⟩ {} c).test = .between true (.number low) (.number high) ∧
      (Sql.predicate ⟨[f]⟩ {} c).tokens = [.word "age", .word "NOT", .word "BETWEEN", .word "1",
        .word "AND", .word "2.5"] ∧
      Readable.value {} (some f) c.operator c.value = "1 and 2.5" := by
  intro low high c t f
  have hv : Lint.isValid t ⟨[f]⟩ = true := by decide +kernel
  have hc : c ∈ t.conditions := List.mem_singleton.2 rfl
  obtain ⟨f', items, hf, -, -, -, hrange⟩ := valid_values_written_typed hv hc rfl {}
  cases hf
  obtain ⟨low', high', hbounds⟩ := hrange rfl
  cases hbounds.value
  refine ⟨hv, hc, rfl, hbounds.sql.trans ?_, ?_, hbounds.sentence.trans ?_⟩ <;> decide +kernel

end Criteria
