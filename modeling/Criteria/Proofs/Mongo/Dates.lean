import Criteria.Proofs.Date.Order
import Criteria.Proofs.Lint.Conforms
import Criteria.Proofs.Typed

namespace Criteria

namespace Mongo

/-- Whether a text passes a test against bounds. -/
def Passes : Json → String → Prop
  | .object [("$lt", .text bound)], s => s < bound
  | .object [("$gt", .text bound)], s => bound < s
  | .object [("$gte", .text low), ("$lte", .text high)], s => low ≤ s ∧ s ≤ high
  | .object [("$not", .object [("$gte", .text low), ("$lte", .text high)])], s =>
    ¬ (low ≤ s ∧ s ≤ high)
  | _, _ => False

/-- Whether a document passes a filter of one field if the field holds a text. -/
def Filter.Passes : Filter → String → Prop
  | .field _ test, s => Mongo.Passes test s
  | .all _, _ | .any _, _ | .not _, _ => False

/-- Whether conditions with two bounds, the days `d` and `e`, let the text of a day pass just if the
calendar has it before the first, after the first, or between the two. -/
structure SelectsDay (catalog : Catalog) (o : Options) (c : Condition) (low high : Value)
    (d e day : Date) : Prop where
  before : (condition catalog o { c with operator := .before, value := low }).Passes day.iso ↔
    day < d
  after : (condition catalog o { c with operator := .after, value := low }).Passes day.iso ↔ d < day
  between : (condition catalog o
    { c with operator := .between, value := .list [low, high] }).Passes day.iso ↔ d ≤ day ∧ day ≤ e
  notBetween : (condition catalog o
    { c with operator := .notBetween, value := .list [low, high] }).Passes day.iso ↔
      ¬ (d ≤ day ∧ day ≤ e)

theorem selectsDay {catalog : Catalog} {c : Condition} {f : Field} {low high : Value}
    {d e day : Date} (o : Options) (hf : catalog.get? c.field = some f)
    (hlow : value (some f) low = .text d.iso) (hhigh : value (some f) high = .text e.iso)
    (hbefore : day.iso < d.iso ↔ day < d) (hafter : d.iso < day.iso ↔ d < day)
    (habove : e.iso < day.iso ↔ e < day) : SelectsDay catalog o c low high d e day where
  before := by
    simp only [condition, hf, hlow]
    exact hbefore
  after := by
    simp only [condition, hf, hlow]
    exact hafter
  between := by
    simp only [condition, hf, range, Value.range?, Option.getD_some, hlow, hhigh]
    rw [← Date.not_lt, ← Date.not_lt, ← hbefore, ← habove]
    exact Iff.rfl
  notBetween := by
    simp only [condition, hf, range, Value.range?, Option.getD_some, hlow, hhigh]
    rw [← Date.not_lt, ← Date.not_lt, ← hbefore, ← habove]
    exact Iff.rfl

end Mongo

/-- What the linter accepts on a field of days is written to a filter as the text of a day. -/
theorem Field.exists_date {f : Field} {v : Value} (hf : f.type = .date)
    (hv : Lint.typeFault? f v = none) :
    ∃ d, v.date? = some d ∧ Mongo.value (some f) v = .text d.iso := by
  have hadmits : ∃ d, v.date? = some d := by
    have h := Lint.typeFault?_eq_none.1 hv
    simpa only [Field.Admits, hf] using h
  obtain ⟨d, hd⟩ := hadmits
  have htyped : f.typed? v = some (.date d) := by
    rw [Field.typed?, hf, hd]
    rfl
  exact ⟨d, hd, (Field.written_typed htyped {}).2.1⟩

/-- Values that the linter accepts on a field of days are written to filters as texts of days. Of
two days, the text of the earlier one comes first exactly if they are in one year, the later year
has four digits, or both years have the same sign and their digits are in order as a text. Among
days of years of four digits filters select by the calendar. -/
theorem date_texts_in_order_iff {f : Field} {v w : Value} (hf : f.type = .date)
    (hv : Lint.typeFault? f v = none) (hw : Lint.typeFault? f w = none) :
    ∃ d e : Date, v.date? = some d ∧ w.date? = some e ∧
      Mongo.value (some f) v = .text d.iso ∧ Mongo.value (some f) w = .text e.iso ∧
      (d < e → (d.iso < e.iso ↔ d.year = e.year ∨ Date.YearsInOrder d.year e.year)) ∧
      ((∀ bound ∈ [d, e], 0 ≤ bound.year ∧ bound.year ≤ 9999) →
        ∀ (catalog : Catalog) (o : Mongo.Options) (c : Condition) (day : Date),
          catalog.get? c.field = some f → 0 ≤ day.year ∧ day.year ≤ 9999 →
          Mongo.SelectsDay catalog o c v w d e day) := by
  obtain ⟨d, hd, hlow⟩ := Field.exists_date hf hv
  obtain ⟨e, he, hhigh⟩ := Field.exists_date hf hw
  refine ⟨d, e, hd, he, hlow, hhigh, Date.iso_lt_iso, ?_⟩
  intro hbounds catalog o c day hfield hday
  have hd : 0 ≤ d.year ∧ d.year ≤ 9999 := hbounds d List.mem_cons_self
  have he : 0 ≤ e.year ∧ e.year ≤ 9999 :=
    hbounds e (List.mem_cons_of_mem _ (List.mem_singleton_self e))
  exact Mongo.selectsDay o hfield hlow hhigh (Date.iso_lt_iff hday hd) (Date.iso_lt_iff hd hday)
    (Date.iso_lt_iff he hday)

/-- The last day of a leap month is between its first day and a time of the next month. -/
theorem date_texts_in_order_iff_leap_day :
    let f : Field := ⟨"due", "Due", .date, none, [], none⟩
    let low : Value := .text " 2024-2-1"
    let high : Value := .text "2024-03-01T23:30:00-05:00"
    let day : Date := ⟨2024, 2, 29, by decide, by decide, by decide⟩
    let c : Condition := ⟨"c", "due", .between, .list [low, high], none⟩
    Lint.typeFault? f low = none ∧ Lint.typeFault? f high = none ∧
      day.iso = "2024-02-29" ∧ (Mongo.condition ⟨[f]⟩ {} c).Passes day.iso := by
  intro f low high day c
  have hv : Lint.typeFault? f low = none := by decide +kernel
  have hw : Lint.typeFault? f high = none := by decide +kernel
  obtain ⟨d, e, hd, he, -, -, -, hselects⟩ := date_texts_in_order_iff rfl hv hw
  have hlow : low.date? = some ⟨2024, 2, 1, by decide, by decide, by decide⟩ := by decide +kernel
  have hhigh : high.date? = some ⟨2024, 3, 1, by decide, by decide, by decide⟩ := by
    decide +kernel
  obtain rfl := Option.some.inj (hd.symm.trans hlow)
  obtain rfl := Option.some.inj (he.symm.trans hhigh)
  have hselect := hselects (by decide) ⟨[f]⟩ {} c day rfl (by decide)
  refine ⟨hv, hw, by decide +kernel, hselect.between.2 ?_⟩
  rw [← Date.not_lt, ← Date.not_lt, Date.lt_iff, Date.lt_iff]
  decide

/-- The last day of year 9999 and the day after it. The text of the later one comes first, so
nothing is between them, not even they themselves. -/
theorem later_date_text_first :
    let f : Field := ⟨"due", "Due", .date, none, [], none⟩
    let low : Value := .text "9999-12-31"
    let high : Value := .text "+10000-01-01"
    let d : Date := ⟨9999, 12, 31, by decide, by decide, by decide⟩
    let e : Date := ⟨10000, 1, 1, by decide, by decide, by decide⟩
    let c : Condition := ⟨"c", "due", .between, .list [low, high], none⟩
    Lint.typeFault? f low = none ∧ Lint.typeFault? f high = none ∧
      low.date? = some d ∧ high.date? = some e ∧ d < e ∧
      Mongo.value (some f) low = .text "9999-12-31" ∧
      Mongo.value (some f) high = .text "+10000-01-01" ∧
      "+10000-01-01" < "9999-12-31" ∧ ∀ s, ¬ (Mongo.condition ⟨[f]⟩ {} c).Passes s := by
  intro f low high d e c
  have hrange : Mongo.range (some f) c.value
      = .object [("$gte", .text "9999-12-31"), ("$lte", .text "+10000-01-01")] := by
    decide +kernel
  have horder : "+10000-01-01" < "9999-12-31" := by decide
  refine ⟨by decide +kernel, by decide +kernel, by decide +kernel, by decide +kernel,
    Date.lt_of_year_lt (by decide), by decide +kernel, by decide +kernel, horder, fun s h => ?_⟩
  change Mongo.Passes (Mongo.range (some f) c.value) s at h
  rw [hrange] at h
  have hle : "9999-12-31" ≤ "+10000-01-01" := String.le_trans h.1 h.2
  exact hle horder

end Criteria
