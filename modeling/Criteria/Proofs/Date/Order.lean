import Criteria.Proofs.Date.Text
import Mathlib.Data.List.Induction

namespace Criteria

namespace Calendar

theorem daysBeforeMonth_succ (year : Int) {month : Nat} (h : 1 ≤ month) :
    daysBeforeMonth year (month + 1) = daysBeforeMonth year month + monthLength year month := by
  obtain ⟨n, rfl⟩ := Nat.exists_eq_add_of_le' h
  simp only [daysBeforeMonth, Nat.add_sub_cancel, List.range_succ, List.foldl_append,
    List.foldl_cons, List.foldl_nil]

theorem daysBeforeMonth_le (year : Int) {month later : Nat} (hmonth : 1 ≤ month)
    (h : month + 1 ≤ later) :
    daysBeforeMonth year month + monthLength year month ≤ daysBeforeMonth year later := by
  induction later, h using Nat.le_induction with
  | base => exact Nat.le_of_eq (daysBeforeMonth_succ year hmonth).symm
  | succ n hn ih =>
    rw [daysBeforeMonth_succ year (by omega)]
    omega

theorem daysBeforeMonth_thirteen (year : Int) : daysBeforeMonth year 13 = yearLength year := by
  cases h : isLeap year <;> simp [daysBeforeMonth, List.range_succ, monthLength, yearLength, h]

theorem daysBeforeYear_succ (year : Int) :
    daysBeforeYear (year + 1) = daysBeforeYear year + yearLength year := by
  have hleap : isLeap year = true ↔ year % 4 = 0 ∧ (year % 100 ≠ 0 ∨ year % 400 = 0) := by
    simp [isLeap]
  rw [daysBeforeYear, daysBeforeYear, yearLength]
  split
  · next h =>
    rw [hleap] at h
    omega
  · next h =>
    rw [hleap] at h
    omega

theorem daysBeforeYear_mono {year later : Int} (h : year ≤ later) :
    daysBeforeYear year ≤ daysBeforeYear later := by
  rw [daysBeforeYear, daysBeforeYear]
  omega

end Calendar

namespace Date

variable {d e : Date}

theorem ordinal_pos (d : Date) : 1 ≤ d.ordinal :=
  Nat.le_trans d.day_range.1 (Nat.le_add_left _ _)

theorem ordinal_le (d : Date) : d.ordinal ≤ Calendar.yearLength d.year := by
  have hmonth := Calendar.daysBeforeMonth_le d.year d.month_range.1
    (Nat.succ_le_succ d.month_range.2)
  rw [Calendar.daysBeforeMonth_thirteen] at hmonth
  have hday := d.day_range.2
  rw [ordinal]
  omega

/-- Days are in the order in which they are counted. -/
instance : LT Date := ⟨fun d e => d.dayNumber < e.dayNumber⟩
instance : LE Date := ⟨fun d e => d.dayNumber ≤ e.dayNumber⟩

theorem lt_of_year_lt (h : d.year < e.year) : d < e := by
  have hyear : Calendar.daysBeforeYear (d.year + 1) ≤ Calendar.daysBeforeYear e.year :=
    Calendar.daysBeforeYear_mono h
  rw [Calendar.daysBeforeYear_succ] at hyear
  have hd := d.ordinal_le
  have he := e.ordinal_pos
  change d.dayNumber < e.dayNumber
  rw [dayNumber, dayNumber]
  omega

theorem lt_of_month_lt (hyear : d.year = e.year) (h : d.month < e.month) : d < e := by
  have hmonth := Calendar.daysBeforeMonth_le d.year d.month_range.1 h
  have hd := d.day_range.2
  have he := e.day_range.1
  change d.dayNumber < e.dayNumber
  rw [dayNumber, dayNumber, ordinal, ordinal, ← hyear]
  omega

theorem lt_of_day_lt (hyear : d.year = e.year) (hmonth : d.month = e.month) (h : d.day < e.day) :
    d < e := by
  change d.dayNumber < e.dayNumber
  rw [dayNumber, dayNumber, ordinal, ordinal, ← hyear, ← hmonth]
  omega

theorem lt_iff : d < e ↔ d.year < e.year ∨
    d.year = e.year ∧ (d.month < e.month ∨ d.month = e.month ∧ d.day < e.day) := by
  have hparts {d e : Date} (h : d.year < e.year ∨
      d.year = e.year ∧ (d.month < e.month ∨ d.month = e.month ∧ d.day < e.day)) : d < e := by
    rcases h with h | ⟨hyear, h | ⟨hmonth, h⟩⟩
    · exact lt_of_year_lt h
    · exact lt_of_month_lt hyear h
    · exact lt_of_day_lt hyear hmonth h
  refine ⟨fun h => ?_, hparts⟩
  by_contra hnot
  have hback : (e.year < d.year ∨
      e.year = d.year ∧ (e.month < d.month ∨ e.month = d.month ∧ e.day < d.day)) ∨
      (d.year = e.year ∧ d.month = e.month ∧ d.day = e.day) := by omega
  rcases hback with hback | ⟨hyear, hmonth, hday⟩
  · exact Int.lt_asymm h (hparts hback)
  · change d.dayNumber < e.dayNumber at h
    rw [dayNumber, dayNumber, ordinal, ordinal, hyear, hmonth, hday] at h
    exact Int.lt_irrefl _ h

theorem not_lt : ¬ d < e ↔ e ≤ d := Int.not_lt

end Date

theorem append_hyphen_lt_iff {a b x y : List Char} (ha : ∀ c ∈ a, '-' < c)
    (hb : ∀ c ∈ b, '-' < c) : a ++ '-' :: x < b ++ '-' :: y ↔ a < b ∨ a = b ∧ x < y := by
  induction a generalizing b with
  | nil =>
    cases b with
    | nil => simp
    | cons d b => simp [List.cons_lt_cons_iff, hb d List.mem_cons_self]
  | cons c a ih =>
    have hc := ha c List.mem_cons_self
    cases b with
    | nil =>
      have hlt : ¬ c < '-' := Char.lt_asymm hc
      have hne : c ≠ '-' := fun h => Char.lt_irrefl _ (h ▸ hc)
      simp only [List.cons_append, List.nil_append, List.cons_lt_cons_iff, hlt, hne, false_and,
        or_self, List.not_lt_nil, reduceCtorEq]
    | cons d b =>
      have htail := ih (List.forall_mem_cons.1 ha).2 (List.forall_mem_cons.1 hb).2
      simp only [List.cons_append, List.cons_lt_cons_iff, htail, List.cons.injEq]
      tauto

namespace Decimal

theorem digitChar_order {a b : Nat} (ha : a < 10) (hb : b < 10) :
    (digitChar a < digitChar b ↔ a < b) ∧
      (digitChar a = digitChar b ↔ a = b) := by
  have hall : ∀ a < 10, ∀ b < 10, (digitChar a < digitChar b ↔ a < b) ∧
      (digitChar a = digitChar b ↔ a = b) := by decide
  exact hall a ha b hb

theorem ofDigits_cons (d : Nat) (ds : List Nat) :
    ofDigits (d :: ds) = d * Nat.pow 10 ds.length + ofDigits ds := by
  induction ds using List.reverseRecOn with
  | nil => simp [ofDigits]
  | append_singleton ds e ih =>
    have hpow : Nat.pow 10 (ds.length + 1) = Nat.pow 10 ds.length * 10 := rfl
    rw [← List.cons_append, ofDigits_append, ofDigits_append, ih,
      List.length_append, List.length_singleton, hpow, ← Nat.mul_assoc]
    simp only [List.foldl_cons, List.foldl_nil]
    omega

theorem mul_add_lt_iff {unit a b r s : Nat} (hr : r < unit) (hs : s < unit) :
    a * unit + r < b * unit + s ↔ a < b ∨ a = b ∧ r < s := by
  rcases Nat.lt_trichotomy a b with h | rfl | h
  · have hle : (a + 1) * unit ≤ b * unit := Nat.mul_le_mul_right unit h
    rw [Nat.add_mul, Nat.one_mul] at hle
    omega
  · omega
  · have hle : (b + 1) * unit ≤ a * unit := Nat.mul_le_mul_right unit h
    rw [Nat.add_mul, Nat.one_mul] at hle
    omega

theorem chars_lt_iff {as bs : List Nat} (has : ∀ a ∈ as, a < 10) (hbs : ∀ b ∈ bs, b < 10)
    (hlength : as.length = bs.length) :
    chars as < chars bs ↔ ofDigits as < ofDigits bs := by
  induction as generalizing bs with
  | nil =>
    obtain rfl := List.length_eq_zero_iff.1 hlength.symm
    exact iff_of_false (List.not_lt_nil _) (Nat.lt_irrefl _)
  | cons a as ih =>
    cases bs with
    | nil => cases hlength
    | cons b bs =>
      obtain ⟨ha, has⟩ := List.forall_mem_cons.1 has
      obtain ⟨hb, hbs⟩ := List.forall_mem_cons.1 hbs
      have hlength := Nat.succ.inj hlength
      have hleft := ofDigits_lt has
      have hright := ofDigits_lt hbs
      obtain ⟨hlt, heq⟩ := digitChar_order ha hb
      rw [← hlength] at hright
      rw [ofDigits_cons, ofDigits_cons, ← hlength, mul_add_lt_iff hleft hright,
        ← ih has hbs hlength, ← hlt, ← heq]
      exact List.cons_lt_cons_iff

theorem chars_inj {as bs : List Nat} (has : ∀ a ∈ as, a < 10) (hbs : ∀ b ∈ bs, b < 10) :
    chars as = chars bs ↔ as = bs := by
  refine ⟨fun h => ?_, congrArg _⟩
  have hleft := Spelling.spanDigits_chars has Spelling.stopsDigits_nil
  have hright := Spelling.spanDigits_chars hbs Spelling.stopsDigits_nil
  rw [h, hright] at hleft
  exact (Prod.mk.inj hleft).1.symm

end Decimal

namespace Date

theorem padded_lt_padded {width m n : Nat} (hwidth : 0 < width) (hm : m < Nat.pow 10 width)
    (hn : n < Nat.pow 10 width) : padded width m < padded width n ↔ m < n := by
  have hlength : (paddedDigits width m).length = (paddedDigits width n).length := by
    rw [length_padded hwidth hm, length_padded hwidth hn]
  rw [padded_eq_chars, padded_eq_chars,
    Decimal.chars_lt_iff (padded_lt width m) (padded_lt width n) hlength, ofDigits_padded,
    ofDigits_padded]

theorem padded_inj {width m n : Nat} : padded width m = padded width n ↔ m = n := by
  refine ⟨fun h => ?_, congrArg _⟩
  rw [padded_eq_chars, padded_eq_chars,
    Decimal.chars_inj (padded_lt width m) (padded_lt width n)] at h
  rw [← ofDigits_padded width m, h, ofDigits_padded]

theorem hyphen_lt_padded : ∀ width n : Nat, ∀ c ∈ padded width n, '-' < c :=
  forall_mem_padded (by decide)

/-- Whether the texts of days keep the order of two years, the first one being earlier: if the later
year has four digits, or if both have the same sign and their digits are in order as a text. -/
def YearsInOrder (year later : Int) : Prop :=
  (0 ≤ later ∧ later ≤ 9999) ∨
    (9999 < year ∨ later < 0) ∧ padded 4 year.natAbs < padded 4 later.natAbs

theorem yearChars_of_neg {year : Int} (h : year < 0) :
    yearChars year = '-' :: padded 4 year.natAbs :=
  if_pos h

theorem yearChars_of_large {year : Int} (h : 9999 < year) :
    yearChars year = '+' :: padded 4 year.natAbs := by
  rw [yearChars, if_neg (by omega), if_pos h]

theorem yearChars_of_digits {year : Int} (h : 0 ≤ year ∧ year ≤ 9999) :
    yearChars year = padded 4 year.natAbs := by
  rw [yearChars, if_neg (by omega), if_neg (by omega)]

theorem exists_yearChars_digits {year : Int} (h : 0 ≤ year ∧ year ≤ 9999) :
    ∃ d cs, d < 10 ∧ yearChars year = Decimal.digitChar d :: cs := by
  rw [yearChars_of_digits h]
  exact exists_padded (Nat.zero_lt_succ 3) year.natAbs

theorem padded_append_lt_iff {m n : Nat} (h : m ≠ n) (rest tail : List Char) :
    padded 4 m ++ '-' :: rest < padded 4 n ++ '-' :: tail ↔ padded 4 m < padded 4 n := by
  rw [append_hyphen_lt_iff (hyphen_lt_padded 4 m) (hyphen_lt_padded 4 n), padded_inj]
  exact or_iff_left fun heq => h heq.1

section

variable {year later : Int} (rest tail : List Char)

theorem yearChars_append_lt (h : year < later) (hlater : 0 ≤ later ∧ later ≤ 9999) :
    yearChars year ++ '-' :: rest < yearChars later ++ '-' :: tail := by
  rcases lt_or_ge year 0 with hneg | hpos
  · have hminus : ∀ d < 10, '-' < Decimal.digitChar d := by decide
    obtain ⟨d, cs, hd, hdigits⟩ := exists_yearChars_digits hlater
    rw [yearChars_of_neg hneg, hdigits]
    exact List.cons_lt_cons_iff.2 (.inl (hminus d hd))
  · have hfits : year.natAbs < Nat.pow 10 4 ∧ later.natAbs < Nat.pow 10 4 := by
      have hpow : Nat.pow 10 4 = 10000 := rfl
      omega
    rw [yearChars_of_digits ⟨hpos, by omega⟩, yearChars_of_digits hlater,
      padded_append_lt_iff (by omega), padded_lt_padded (Nat.zero_lt_succ 3) hfits.1 hfits.2]
    omega

theorem not_yearChars_append_lt (h : year ≤ 9999) (hlater : 9999 < later) :
    ¬ yearChars year ++ '-' :: rest < yearChars later ++ '-' :: tail := by
  have hfirst : ∃ c cs, yearChars year = c :: cs ∧ ¬ c < '+' ∧ c ≠ '+' := by
    rcases lt_or_ge year 0 with hneg | hpos
    · exact ⟨'-', _, yearChars_of_neg hneg, by decide⟩
    · have hplus : ∀ d < 10, ¬ Decimal.digitChar d < '+' ∧ Decimal.digitChar d ≠ '+' := by decide
      obtain ⟨d, cs, hd, hdigits⟩ := exists_yearChars_digits ⟨hpos, h⟩
      exact ⟨_, cs, hdigits, hplus d hd⟩
  obtain ⟨c, cs, hchars, hlt, hne⟩ := hfirst
  rw [hchars, yearChars_of_large hlater]
  intro hless
  rcases List.cons_lt_cons_iff.1 hless with hc | ⟨hc, -⟩
  · exact hlt hc
  · exact hne hc

theorem yearChars_append_lt_iff (h : year < later) :
    yearChars year ++ '-' :: rest < yearChars later ++ '-' :: tail ↔ YearsInOrder year later := by
  rw [YearsInOrder]
  rcases lt_or_ge later 0 with hneg | hpos
  · have hout : ¬ (0 ≤ later ∧ later ≤ 9999) := by omega
    rw [yearChars_of_neg hneg, yearChars_of_neg (h.trans hneg), List.cons_append, List.cons_append,
      List.cons_lt_cons_iff, padded_append_lt_iff (by omega)]
    simp only [Char.lt_irrefl, hout, hneg, false_or, or_true, true_and]
  rcases le_or_gt later 9999 with hsmall | hlarge
  · exact iff_of_true (yearChars_append_lt rest tail h ⟨hpos, hsmall⟩) (.inl ⟨hpos, hsmall⟩)
  rcases le_or_gt year 9999 with hsmall | hlarge'
  · refine iff_of_false (not_yearChars_append_lt rest tail hsmall hlarge) ?_
    rintro (hlater | ⟨hyear, -⟩) <;> omega
  · have hout : ¬ (0 ≤ later ∧ later ≤ 9999) := by omega
    rw [yearChars_of_large hlarge, yearChars_of_large hlarge', List.cons_append, List.cons_append,
      List.cons_lt_cons_iff, padded_append_lt_iff (by omega)]
    simp only [Char.lt_irrefl, hout, hlarge', false_or, true_or, true_and]

end

/-- Which of two days is earlier is seen from their texts if their years are in order, and never
otherwise. -/
theorem iso_lt_iso {d e : Date} (h : d < e) :
    d.iso < e.iso ↔ d.year = e.year ∨ YearsInOrder d.year e.year := by
  have hchars : d.iso < e.iso ↔ d.isoChars < e.isoChars := by
    rw [String.lt_iff, iso, iso, String.toList_ofList, String.toList_ofList]
  rw [hchars, isoChars, isoChars]
  simp only [List.append_assoc, List.cons_append]
  rcases lt_iff.1 h with hyear | ⟨hyear, hparts⟩
  · rw [yearChars_append_lt_iff _ _ hyear]
    exact ⟨.inr, fun h => h.resolve_left (Int.ne_of_lt hyear)⟩
  · refine iff_of_true ?_ (.inl hyear)
    have hmonth (d : Date) : d.month < Nat.pow 10 2 :=
      Nat.lt_of_le_of_lt d.month_range.2 (by decide)
    rw [hyear]
    apply List.append_left_lt
    apply List.cons_lt_cons_iff.2
    refine .inr ⟨rfl, (append_hyphen_lt_iff (hyphen_lt_padded 2 _) (hyphen_lt_padded 2 _)).2 ?_⟩
    rw [padded_lt_padded Nat.zero_lt_two (hmonth d) (hmonth e), padded_inj,
      padded_lt_padded Nat.zero_lt_two d.day_lt e.day_lt]
    exact hparts

theorem lt_trichotomy (d e : Date) : d < e ∨ d = e ∨ e < d := by
  rw [lt_iff, lt_iff (d := e)]
  have hparts : d.year = e.year → d.month = e.month → d.day = e.day → d = e := by
    intro hyear hmonth hday
    cases d
    cases e
    subst hyear hmonth hday
    rfl
  by_cases h : d.year = e.year ∧ d.month = e.month ∧ d.day = e.day
  · exact .inr (.inl (hparts h.1 h.2.1 h.2.2))
  · omega

theorem iso_lt_iff {d e : Date} (hd : 0 ≤ d.year ∧ d.year ≤ 9999)
    (he : 0 ≤ e.year ∧ e.year ≤ 9999) : d.iso < e.iso ↔ d < e := by
  refine ⟨fun h => ?_, fun h => (iso_lt_iso h).2 (.inr (.inl he))⟩
  rcases lt_trichotomy d e with hlt | rfl | hlt
  · exact hlt
  · exact absurd h (String.lt_irrefl _)
  · exact absurd h (String.lt_asymm ((iso_lt_iso hlt).2 (.inr (.inl hd))))

end Date

end Criteria
