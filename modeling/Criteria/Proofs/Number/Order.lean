import Criteria.Proofs.Number.Nearest
import Mathlib.Data.Rat.Cast.Order
import Mathlib.Tactic.Positivity

namespace Criteria.Number

variable {x y : Number}

theorem units_inj : x.units = y.units ↔ x = y := by
  refine ⟨fun h => ?_, congrArg units⟩
  have hnegative : x.negative = y.negative := by
    -- numbers of different signs are equal only at zero, which has no sign
    by_contra hne
    have hzero {u v : Number} (hu : u.negative = true) (hv : v.negative = false)
        (huv : u.units = v.units) : False := by
      have hpos : 0 < u.steps := steps_pos (u.unsigned_zero hu)
      simp only [units, hu, hv, if_true, Bool.false_eq_true, if_false] at huv
      omega
    cases hx : x.negative <;> cases hy : y.negative
    · exact hne (hx.trans hy.symm)
    · exact hzero hy hx h.symm
    · exact hzero hx hy h
    · exact hne (hx.trans hy.symm)
  have hsteps : x.steps = y.steps := by
    simp only [units, hnegative] at h
    split at h <;> omega
  have hx := x.ofSteps?_steps
  rw [hnegative, hsteps, y.ofSteps?_steps] at hx
  exact (Option.some.inj hx).symm

/-- The rational number that a number is. -/
def toRat (x : Number) : ℚ := x.units / 2 ^ 1074

theorem toRat_lt : x.toRat < y.toRat ↔ x < y := by
  rw [toRat, toRat, div_lt_div_iff_of_pos_right (by positivity), Int.cast_lt]
  rfl

theorem toRat_le : x.toRat ≤ y.toRat ↔ x ≤ y := by
  rw [toRat, toRat, div_le_div_iff_of_pos_right (by positivity), Int.cast_le]
  rfl

theorem toRat_inj : x.toRat = y.toRat ↔ x = y := by
  rw [toRat, toRat, div_left_inj' (by positivity), Int.cast_inj, units_inj]

end Criteria.Number
