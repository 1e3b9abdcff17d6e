import Criteria.Date.Reader
import Criteria.Proofs.Number.Spelled
import Mathlib.Tactic.IntervalCases

namespace Criteria

open Spelling (StopsDigits)

namespace Text

theorem number?_chars {ds : List Nat} {least most : Nat} {rest : List Char}
    (hds : ∀ d ∈ ds, d < 10) (hleast : least ≤ ds.length) (hmost : ds.length ≤ most)
    (hrest : ds.length = most ∨ StopsDigits rest) :
    number? least most (Decimal.chars ds ++ rest) = some (Decimal.ofDigits ds, rest) := by
  have htake : (Decimal.chars ds ++ rest).take most
      = Decimal.chars ds ++ rest.take (most - ds.length) := by
    rw [List.take_append, List.take_of_length_le, Decimal.length_chars]
    rw [Decimal.length_chars]
    exact hmost
  have hstop : StopsDigits (rest.take (most - ds.length)) := by
    rcases hrest with hlength | hstop
    · rw [hlength, Nat.sub_self]
      exact Spelling.stopsDigits_nil
    · intro c hc
      rw [List.head?_take] at hc
      split at hc
      · cases hc
      · exact hstop c hc
  have hdrop : (Decimal.chars ds ++ rest).drop ds.length = rest :=
    List.drop_left' (Decimal.length_chars ds)
  rw [number?, htake, Spelling.spanDigits_chars hds hstop]
  simp only [Nat.not_lt.2 hleast, if_false, hdrop]

theorem trimStart_cons {c : Char} (h : isBlank c = false) (cs : List Char) :
    trimStart (c :: cs) = c :: cs :=
  List.dropWhile_cons_of_neg (by simp [h])

theorem trim_eq_self {cs : List Char} (h : ∀ c ∈ cs, isBlank c = false) : trim cs = cs := by
  have hstart {cs : List Char} (h : ∀ c ∈ cs, isBlank c = false) : cs.dropWhile isBlank = cs := by
    cases cs with
    | nil => rfl
    | cons c cs => exact trimStart_cons (h c List.mem_cons_self) cs
  rw [trim, trimEnd, trimStart, hstart h, hstart fun c hc => h c (List.mem_reverse.1 hc),
    List.reverse_reverse]

theorem trimStart_digit {d : Nat} (h : d < 10) (cs : List Char) :
    trimStart (Decimal.digitChar d :: cs) = Decimal.digitChar d :: cs := by
  apply trimStart_cons
  interval_cases d <;> rfl

end Text

namespace Date

/-- The digits of a natural number with zeros in front up to a width. -/
def paddedDigits (width n : Nat) : List Nat :=
  List.replicate (width - (Decimal.digits n).length) 0 ++ Decimal.digits n

theorem padded_eq_chars (width n : Nat) :
    padded width n = Decimal.chars (paddedDigits width n) := by
  rw [padded, paddedDigits, Decimal.chars_append, Decimal.chars_replicate, Decimal.length_natChars]
  rfl

theorem ofDigits_padded (width n : Nat) : Decimal.ofDigits (paddedDigits width n) = n := by
  rw [paddedDigits, Decimal.ofDigits_zeros_append, Decimal.ofDigits_digits]

theorem padded_lt (width n : Nat) : ∀ d ∈ paddedDigits width n, d < 10 := by
  intro d hd
  rcases List.mem_append.1 hd with hd | hd
  · rw [List.eq_of_mem_replicate hd]
    exact Nat.zero_lt_succ 9
  · exact Decimal.digits_lt n d hd

theorem forall_mem_padded {p : Char → Prop} (hp : ∀ d < 10, p (Decimal.digitChar d))
    (width n : Nat) : ∀ c ∈ padded width n, p c := by
  intro c hc
  rw [padded_eq_chars] at hc
  obtain ⟨d, hd, rfl⟩ := List.mem_map.1 hc
  exact hp d (padded_lt width n d hd)

theorem le_length_padded (width n : Nat) : width ≤ (paddedDigits width n).length := by
  rw [paddedDigits, List.length_append, List.length_replicate]
  omega

theorem length_padded {width n : Nat} (hwidth : 0 < width) (hn : n < Nat.pow 10 width) :
    (paddedDigits width n).length = width := by
  have hlog : Nat.log 10 n < width := Nat.log_lt_of_lt_pow' (Nat.ne_of_gt hwidth) hn
  rw [paddedDigits, List.length_append, List.length_replicate, Decimal.length_digits]
  omega

theorem exists_padded {width : Nat} (hwidth : 0 < width) (n : Nat) :
    ∃ d cs, d < 10 ∧ padded width n = Decimal.digitChar d :: cs := by
  have hlength := le_length_padded width n
  obtain ⟨d, ds, hds⟩ : ∃ d ds, paddedDigits width n = d :: ds := by
    apply List.exists_cons_of_ne_nil
    intro hnil
    rw [hnil] at hlength
    exact absurd hlength (Nat.not_le.2 hwidth)
  have hd : d < 10 := padded_lt width n d (by rw [hds]; exact List.mem_cons_self)
  refine ⟨d, Decimal.chars ds, hd, ?_⟩
  rw [padded_eq_chars, hds]
  rfl

theorem number?_padded {least width n : Nat} (hwidth : 0 < width) (hleast : least ≤ width)
    (hn : n < Nat.pow 10 width) (rest : List Char) :
    Text.number? least width (padded width n ++ rest) = some (n, rest) := by
  have hlength := length_padded hwidth hn
  rw [padded_eq_chars, Text.number?_chars (padded_lt width n) (by omega) (by omega) (.inl hlength),
    ofDigits_padded]

theorem twoDigits?_padded {n : Nat} (hn : n < 100) (rest : List Char) :
    twoDigits? (padded 2 n ++ rest) = some (n, rest) := by
  obtain ⟨d, cs, hd, hpadded⟩ := exists_padded Nat.zero_lt_two n
  have hnumber : Text.number? 1 2 (padded 2 n ++ rest) = some (n, rest) :=
    number?_padded Nat.zero_lt_two (Nat.le_succ 1) hn rest
  rw [hpadded] at hnumber ⊢
  rw [twoDigits?, List.cons_append, Text.trimStart_digit hd]
  exact hnumber

/-- A year outside of four digits is read up to where the digits end. -/
theorem number?_signed (n : Nat) {rest : List Char} (hrest : StopsDigits rest) :
    Text.number? 1 (padded 4 n ++ rest).length (padded 4 n ++ rest) = some (n, rest) := by
  have hlength := le_length_padded 4 n
  rw [padded_eq_chars, Text.number?_chars (padded_lt 4 n) (by omega) ?_ (.inr hrest),
    ofDigits_padded]
  rw [List.length_append, Decimal.length_chars]
  exact Nat.le_add_right _ _

theorem year?_digit {d : Nat} (h : d < 10) (cs : List Char) :
    year? (Decimal.digitChar d :: cs)
      = (Text.number? 1 4 (Decimal.digitChar d :: cs)).map fun (n, rest) => ((n : Int), rest) := by
  rw [year?, Text.trimStart_digit h]
  interval_cases d <;> rfl

theorem year?_yearChars (year : Int) {rest : List Char} (hrest : StopsDigits rest) :
    year? (yearChars year ++ rest) = some (year, rest) := by
  have hsigned := number?_signed year.natAbs hrest
  rw [yearChars]
  split
  · next hneg =>
    have hcast : -(year.natAbs : Int) = year := by omega
    rw [List.cons_append, year?, Text.trimStart_cons rfl]
    simp only [hsigned, Option.map_some, hcast]
  · split
    · next hneg hlarge =>
      have hcast : (year.natAbs : Int) = year := by omega
      rw [List.cons_append, year?, Text.trimStart_cons rfl]
      simp only [hsigned, Option.map_some, hcast]
    · next hneg hlarge =>
      have hcast : (year.natAbs : Int) = year := by omega
      have hsmall : year.natAbs < Nat.pow 10 4 := by
        have hpow : Nat.pow 10 4 = 10000 := rfl
        omega
      obtain ⟨d, cs, hd, hpadded⟩ := exists_padded (Nat.zero_lt_succ 3) year.natAbs
      have hnumber : Text.number? 1 4 (padded 4 year.natAbs ++ rest) = some (year.natAbs, rest) :=
        number?_padded (Nat.zero_lt_succ 3) (by omega) hsmall rest
      rw [hpadded, List.cons_append] at hnumber ⊢
      rw [year?_digit hd, hnumber]
      simp only [Option.map_some, hcast]

theorem of?_self (d : Date) : of? d.year d.month d.day = some d :=
  dif_pos ⟨d.year_range, d.month_range, d.day_range⟩

theorem day_lt (d : Date) : d.day < 100 := by
  have hlength : Calendar.monthLength d.year d.month ≤ 31 := by
    rw [Calendar.monthLength.eq_def]
    split
    · split <;> omega
    all_goals omega
  have hday := d.day_range.2
  omega

theorem hyphened?_isoChars (spaced : Bool) (d : Date) (rest : List Char) :
    hyphened? spaced (d.isoChars ++ rest) = some (d, rest) := by
  have hyear : ∀ tail, year? (yearChars d.year ++ '-' :: tail) = some (d.year, '-' :: tail) :=
    fun tail => year?_yearChars d.year (Spelling.stopsDigits_cons rfl tail)
  have hmonth : d.month < 100 := Nat.lt_of_le_of_lt d.month_range.2 (by omega)
  have hhyphen : ∀ tail, (if spaced then Text.trimStart ('-' :: tail) else '-' :: tail)
      = '-' :: tail := by
    intro tail
    rw [Text.trimStart_cons rfl, ite_self]
  have hexpect : ∀ tail, Text.expect? '-' ('-' :: tail) = some tail := fun _ => rfl
  simp only [hyphened?, isoChars, List.append_assoc, List.cons_append, hyear, Option.bind_eq_bind,
    Option.bind_some, hhyphen, hexpect, twoDigits?_padded hmonth, twoDigits?_padded d.day_lt,
    of?_self, Option.pure_def]

end Date

end Criteria
