import Criteria.Date.Timestamp
import Criteria.Proofs.Date.Text

namespace Criteria

open Spelling (StopsDigits)

/-- A time of day that there is; the last second of a minute may be a leap second. -/
structure Clock.IsTime (c : Clock) : Prop where
  hour : c.hour < 24
  minute : c.minute < 60
  second : c.second ≤ 60
  nanosecond : c.nanosecond < Nat.pow 10 9

namespace Clock

theorem of?_eq_some {hour minute second nanosecond : Nat} {c : Clock}
    (h : of? hour minute second nanosecond = some c) :
    hour < 24 ∧ minute < 60 ∧ second ≤ 60 ∧ c = ⟨hour, minute, second, nanosecond⟩ := by
  rw [of?] at h
  split at h
  · next hrange =>
    cases h
    exact ⟨hrange.1, hrange.2.1, hrange.2.2, rfl⟩
  · cases h

theorem fraction?_padded {width n : Nat} (hwidth : 0 < width) (hnine : width ≤ 9)
    (hn : n < Nat.pow 10 width) {rest : List Char} (hrest : StopsDigits rest) :
    fraction? ('.' :: Date.padded width n ++ rest)
      = some (n * Nat.pow 10 (9 - width), rest) := by
  have hlength := Date.length_padded hwidth hn
  have hnumber : Text.number? 1 9 (Date.padded width n ++ rest) = some (n, rest) := by
    rw [Date.padded_eq_chars, Text.number?_chars (Date.padded_lt width n) (by omega) (by omega)
      (.inr hrest), Date.ofDigits_padded]
  have hsize : (Date.padded width n ++ rest).length - rest.length = width := by
    rw [List.length_append, Date.padded_eq_chars, Decimal.length_chars, hlength]
    omega
  rw [List.cons_append, fraction?, nanoseconds?, hnumber]
  simp only [Option.bind_eq_bind, Option.bind_some, hsize, Spelling.spanDigits_stop hrest,
    Option.pure_def]

theorem fraction?_fractionChars {n : Nat} (hn : n < Nat.pow 10 9) :
    fraction? (Timestamp.fractionChars n ++ ['Z']) = some (n, ['Z']) := by
  have hstop : StopsDigits ['Z'] := Spelling.stopsDigits_cons rfl []
  have hnine : Nat.pow 10 9 = 1000000000 := rfl
  have hsix : Nat.pow 10 6 = 1000000 := rfl
  have hthree : Nat.pow 10 3 = 1000 := rfl
  rw [Timestamp.fractionChars]
  split
  · next hzero =>
    rw [hzero]
    rfl
  · split
    · next hmillis =>
      have hsmall : n / 1000000 < Nat.pow 10 3 := by omega
      have hback : n / 1000000 * Nat.pow 10 (9 - 3) = n := by
        rw [show 9 - 3 = 6 from rfl, hsix]
        omega
      rw [fraction?_padded (Nat.zero_lt_succ 2) (by omega) hsmall hstop, hback]
    · split
      · next hmicros =>
        have hsmall : n / 1000 < Nat.pow 10 6 := by omega
        have hback : n / 1000 * Nat.pow 10 (9 - 6) = n := by
          rw [show 9 - 6 = 3 from rfl, hthree]
          omega
        rw [fraction?_padded (Nat.zero_lt_succ 5) (by omega) hsmall hstop, hback]
      · rw [fraction?_padded (Nat.zero_lt_succ 8) (Nat.le_refl 9) hn hstop]
        exact congrArg (fun m => some (m, ['Z'])) (Nat.mul_one n)

theorem nanosecond_lt {cs rest : List Char} {n : Nat} (h : fraction? cs = some (n, rest)) :
    n < Nat.pow 10 9 := by
  rw [fraction?.eq_def] at h
  split at h
  · next cs =>
    obtain ⟨⟨m, tail⟩, hnumber, hn⟩ := Option.bind_eq_some_iff.1 h
    cases hn
    rw [Text.number?] at hnumber
    split at hnumber
    · cases hnumber
    · cases hnumber
      have hlt := Decimal.ofDigits_lt (Spelling.spanDigits_lt (cs.take 9))
      have hlength := Spelling.length_spanDigits_le (cs.take 9)
      have htake := List.length_take_le 9 cs
      have htake' := List.length_take_le' 9 cs
      generalize (Spelling.spanDigits (cs.take 9)).1 = ds at hlt hlength
      have hsize : cs.length - (cs.drop ds.length).length = ds.length := by
        rw [List.length_drop]
        omega
      have hpow : Nat.pow 10 9 = Nat.pow 10 ds.length * Nat.pow 10 (9 - ds.length) := by
        have hsum : ds.length + (9 - ds.length) = 9 := by omega
        have hadd := Nat.pow_add 10 ds.length (9 - ds.length)
        rw [hsum] at hadd
        exact hadd
      rw [hsize, hpow]
      exact Nat.mul_lt_mul_of_pos_right hlt (Nat.pow_pos (Nat.succ_pos 9))
  · cases h
    exact Nat.pow_pos (Nat.succ_pos 9)

end Clock

namespace Timestamp

theorem ofLocal?_zero (date : Date) {clock : Clock} (h : clock.IsTime) :
    ofLocal? date clock 0 = some ⟨date, clock⟩ := by
  obtain ⟨hour, minute, second, nanosecond⟩ := clock
  obtain ⟨hhour, hminute, -, -⟩ := h
  dsimp only at hhour hminute
  have hfirst : ¬ 60 * (hour : Int) + minute - 0 < 0 := by omega
  have hlast : ¬ 1440 ≤ 60 * (hour : Int) + minute - 0 := by omega
  have htoNat : ((60 * (hour : Int) + minute - 0) % 1440).toNat = 60 * hour + minute := by omega
  have hdiv : (60 * hour + minute) / 60 = hour := by omega
  have hmod : (60 * hour + minute) % 60 = minute := by omega
  simp only [ofLocal?, hfirst, hlast, if_false, htoNat, hdiv, hmod, Option.bind_eq_bind,
    Option.bind_some, Option.pure_def]

theorem ofText?_text {t : Timestamp} (h : t.clock.IsTime) : ofText? t.text = some t := by
  have hhour := h.hour
  have hminute := h.minute
  have hsecond := h.second
  have hdate := Date.hyphened?_isoChars true t.date
  have htwo : ∀ {n : Nat} (tail : List Char), n < 100 →
      Date.twoDigits? (Date.padded 2 n ++ tail) = some (n, tail) :=
    fun tail hn => Date.twoDigits?_padded hn tail
  have hcolon : ∀ tail, Text.expect? ':' (Text.trimStart (':' :: tail)) = some tail := fun _ => rfl
  have hfraction := Clock.fraction?_fractionChars h.nanosecond
  have hzone : zone? (Text.trimStart ['Z']) = some (0, []) := rfl
  have hclock : Clock.of? t.clock.hour t.clock.minute t.clock.second t.clock.nanosecond
      = some t.clock := if_pos ⟨hhour, hminute, hsecond⟩
  have hempty : (Text.trimStart []).isEmpty = true := rfl
  rw [ofText?, text, String.toList_ofList, chars]
  simp only [List.append_assoc, List.cons_append, ofChars?, hdate, Option.bind_eq_bind,
    Option.bind_some, htwo _ (show t.clock.hour < 100 by omega),
    htwo _ (show t.clock.minute < 100 by omega), htwo _ (show t.clock.second < 100 by omega),
    hcolon, hfraction, hzone, hclock, hempty, if_true, ofLocal?_zero t.date h]
  rfl

theorem clock_of_ofLocal? {date : Date} {clock : Clock} {offset : Int} {t : Timestamp}
    (h : ofLocal? date clock offset = some t) : ∃ minute < 1440,
      t.clock = { clock with hour := minute / 60, minute := minute % 60 } := by
  have hminute : ((60 * (clock.hour : Int) + clock.minute - offset) % 1440).toNat < 1440 := by omega
  refine ⟨_, hminute, ?_⟩
  rw [ofLocal?] at h
  split at h
  · obtain ⟨day, -, h⟩ := Option.bind_eq_some_iff.1 h
    cases h
    rfl
  · split at h
    · obtain ⟨day, -, h⟩ := Option.bind_eq_some_iff.1 h
      cases h
      rfl
    · cases h
      rfl

theorem isTime_of_ofText? {s : String} {t : Timestamp} (h : ofText? s = some t) :
    t.clock.IsTime := by
  obtain ⟨⟨date, cs⟩, -, h⟩ := Option.bind_eq_some_iff.1 h
  dsimp only at h
  split at h
  · split at h
    · cases h
    · obtain ⟨⟨hour, cs⟩, -, h⟩ := Option.bind_eq_some_iff.1 h
      obtain ⟨_, -, h⟩ := Option.bind_eq_some_iff.1 h
      obtain ⟨⟨minute, cs⟩, -, h⟩ := Option.bind_eq_some_iff.1 h
      obtain ⟨_, -, h⟩ := Option.bind_eq_some_iff.1 h
      obtain ⟨⟨second, cs⟩, -, h⟩ := Option.bind_eq_some_iff.1 h
      obtain ⟨⟨nanosecond, cs⟩, hfraction, h⟩ := Option.bind_eq_some_iff.1 h
      obtain ⟨⟨offset, rest⟩, -, h⟩ := Option.bind_eq_some_iff.1 h
      obtain ⟨clock, hclock, h⟩ := Option.bind_eq_some_iff.1 h
      obtain ⟨-, -, hsecond, rfl⟩ := Clock.of?_eq_some hclock
      split at h
      · obtain ⟨m, hm, ht⟩ := clock_of_ofLocal? h
        rw [ht]
        exact ⟨Nat.div_lt_of_lt_mul hm, Nat.mod_lt _ (by omega), hsecond,
          Clock.nanosecond_lt hfraction⟩
      · cases h
  · cases h

end Timestamp

end Criteria
