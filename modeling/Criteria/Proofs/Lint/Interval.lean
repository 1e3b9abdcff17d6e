import Criteria.Proofs.Lint.Conforms
import Criteria.Proofs.Number.Order
import Mathlib.Order.Interval.Set.UnorderedInterval

namespace Criteria

/-- The rationals that a condition accepts that compares with numbers. Two bounds are taken in
either order. -/
inductive Condition.Accepts (c : Condition) : Set ℚ → Prop
  | equals {x : Number} (hop : c.operator = .equals) (hx : c.value.number? = some x) :
    Accepts c {x.toRat}
  | greater {x : Number} (hop : c.operator = .greaterThan) (hx : c.value.number? = some x) :
    Accepts c (Set.Ioi x.toRat)
  | greaterOrEqual {x : Number} (hop : c.operator = .greaterThanOrEqual)
    (hx : c.value.number? = some x) : Accepts c (Set.Ici x.toRat)
  | less {x : Number} (hop : c.operator = .lessThan) (hx : c.value.number? = some x) :
    Accepts c (Set.Iio x.toRat)
  | lessOrEqual {x : Number} (hop : c.operator = .lessThanOrEqual)
    (hx : c.value.number? = some x) : Accepts c (Set.Iic x.toRat)
  | between {a b : Value} {x y : Number} (hop : c.operator = .between)
    (hv : c.value = .list [a, b]) (hx : a.number? = some x) (hy : b.number? = some y) :
    Accepts c (Set.uIcc x.toRat y.toRat)

namespace Lint

namespace Limit

/-- The rationals that a limit leaves as the low end of an interval. -/
def above (l : Limit) : Set ℚ :=
  if l.inclusive then Set.Ici l.value.toRat else Set.Ioi l.value.toRat

/-- The rationals that a limit leaves as the high end of an interval. -/
def below (l : Limit) : Set ℚ :=
  if l.inclusive then Set.Iic l.value.toRat else Set.Iio l.value.toRat

variable {l k : Limit} {q : ℚ}

theorem le_of_mem_above (h : q ∈ l.above) : l.value.toRat ≤ q := by
  rw [above] at h
  split at h
  · exact h
  · exact le_of_lt h

theorem mem_above_of_lt (h : l.value.toRat < q) : q ∈ l.above := by
  rw [above]
  split
  · exact le_of_lt h
  · exact h

theorem le_of_mem_below (h : q ∈ l.below) : q ≤ l.value.toRat := by
  rw [below] at h
  split at h
  · exact h
  · exact le_of_lt h

theorem mem_below_of_lt (h : q < l.value.toRat) : q ∈ l.below := by
  rw [below]
  split
  · exact le_of_lt h
  · exact h

end Limit

namespace Interval

variable {i j : Interval} {a b : Option Limit} {q : ℚ}

/-- The rationals between the limits of an interval. -/
def toSet (i : Interval) : Set ℚ := {q | (∀ l ∈ i.low, q ∈ l.above) ∧ ∀ l ∈ i.high, q ∈ l.below}

theorem value_eq_of_not_lt {x y : Number} (h : ¬ x < y) (h' : ¬ y < x) : x = y := by
  rw [← Number.toRat_lt, not_lt] at h h'
  exact Number.toRat_inj.1 (le_antisymm h' h)

/-- What the stricter of two limits leaves is what both leave. `side` is the set that a limit
leaves. -/
theorem forall_tighter {stricter : Number → Number → Bool} {side : Limit → Set ℚ}
    (hstrict : ∀ l k, stricter l.value k.value = true → side l ⊆ side k)
    (hsame : ∀ l k, stricter l.value k.value = false → stricter k.value l.value = false →
      side ⟨l.value, l.inclusive && k.inclusive⟩ = side l ∩ side k) :
    (∀ l ∈ tighter stricter a b, q ∈ side l) ↔ (∀ l ∈ a, q ∈ side l) ∧ ∀ l ∈ b, q ∈ side l := by
  cases a with
  | none => cases b <;> simp [tighter]
  | some l =>
    cases b with
    | none => simp [tighter]
    | some k =>
      simp only [tighter, Option.mem_def, Option.some.injEq, forall_eq']
      cases hlk : stricter l.value k.value with
      | true =>
        simp only [if_true, Option.some.injEq, forall_eq']
        exact ⟨fun h => ⟨h, hstrict l k hlk h⟩, fun h => h.1⟩
      | false =>
        cases hkl : stricter k.value l.value with
        | true =>
          simp only [Bool.false_eq_true, if_false, if_true, Option.some.injEq, forall_eq']
          exact ⟨fun h => ⟨hstrict k l hkl h, h⟩, fun h => h.2⟩
        | false =>
          simp only [Bool.false_eq_true, if_false, Option.some.injEq, forall_eq',
            hsame l k hlk hkl, Set.mem_inter_iff]

theorem forall_tighter_low :
    (∀ l ∈ tighter (fun x y => y < x) a b, q ∈ l.above) ↔
      (∀ l ∈ a, q ∈ l.above) ∧ ∀ l ∈ b, q ∈ l.above := by
  apply forall_tighter
  · intro l k h q hq
    have hlt : k.value.toRat < l.value.toRat := Number.toRat_lt.2 (of_decide_eq_true h)
    exact Limit.mem_above_of_lt (hlt.trans_le (Limit.le_of_mem_above hq))
  · intro l k h h'
    have heq := value_eq_of_not_lt (of_decide_eq_false h) (of_decide_eq_false h')
    obtain ⟨x, inclusive⟩ := l
    obtain ⟨y, inclusive'⟩ := k
    obtain rfl : y = x := heq
    have hIoi : Set.Ioi y.toRat ⊆ Set.Ici y.toRat := Set.Ioi_subset_Ici_self
    cases inclusive <;> cases inclusive' <;>
      simp [Limit.above, Set.inter_eq_left.2 hIoi, Set.inter_eq_right.2 hIoi]

theorem forall_tighter_high :
    (∀ l ∈ tighter (fun x y => x < y) a b, q ∈ l.below) ↔
      (∀ l ∈ a, q ∈ l.below) ∧ ∀ l ∈ b, q ∈ l.below := by
  apply forall_tighter
  · intro l k h q hq
    have hlt : l.value.toRat < k.value.toRat := Number.toRat_lt.2 (of_decide_eq_true h)
    exact Limit.mem_below_of_lt ((Limit.le_of_mem_below hq).trans_lt hlt)
  · intro l k h h'
    have heq := value_eq_of_not_lt (of_decide_eq_false h) (of_decide_eq_false h')
    obtain ⟨x, inclusive⟩ := l
    obtain ⟨y, inclusive'⟩ := k
    obtain rfl : x = y := heq
    have hIio : Set.Iio x.toRat ⊆ Set.Iic x.toRat := Set.Iio_subset_Iic_self
    cases inclusive <;> cases inclusive' <;>
      simp [Limit.below, Set.inter_eq_left.2 hIio, Set.inter_eq_right.2 hIio]

theorem above_inter_below_nonempty {l k : Limit} :
    (l.above ∩ k.below).Nonempty ↔
      l.value < k.value ∨ l.value = k.value ∧ l.inclusive = true ∧ k.inclusive = true := by
  constructor
  · rintro ⟨q, hl, hk⟩
    rcases lt_or_eq_of_le ((Limit.le_of_mem_above hl).trans (Limit.le_of_mem_below hk)) with h | h
    · exact .inl (Number.toRat_lt.1 h)
    · right
      have hq : q = l.value.toRat :=
        le_antisymm (h ▸ Limit.le_of_mem_below hk) (Limit.le_of_mem_above hl)
      refine ⟨Number.toRat_inj.1 h, ?_, ?_⟩
      · by_contra hl'
        simp [Limit.above, hl', hq] at hl
      · by_contra hk'
        simp [Limit.below, hk', hq, h] at hk
  · rintro (h | ⟨h, hl, hk⟩)
    · obtain ⟨q, hlq, hqk⟩ := exists_between (Number.toRat_lt.2 h)
      exact ⟨q, Limit.mem_above_of_lt hlq, Limit.mem_below_of_lt hqk⟩
    · refine ⟨l.value.toRat, ?_, ?_⟩
      · simp [Limit.above, hl]
      · simp [Limit.below, hk, h]

theorem overlaps_iff : i.overlaps j = true ↔ (i.toSet ∩ j.toSet).Nonempty := by
  -- the rationals in both intervals are those between the stricter limits
  have hmem (q : ℚ) : q ∈ i.toSet ∩ j.toSet ↔
      (∀ l ∈ tighter (fun x y => y < x) i.low j.low, q ∈ l.above) ∧
        ∀ l ∈ tighter (fun x y => x < y) i.high j.high, q ∈ l.below := by
    rw [forall_tighter_low, forall_tighter_high]
    exact and_and_and_comm
  simp only [Set.Nonempty, hmem, overlaps]
  cases tighter (fun x y => y < x) i.low j.low with
  | none =>
    cases tighter (fun x y => x < y) i.high j.high with
    | none => simp
    | some k =>
      obtain ⟨q, hq⟩ := exists_lt k.value.toRat
      simpa using ⟨q, Limit.mem_below_of_lt hq⟩
  | some l =>
    cases tighter (fun x y => x < y) i.high j.high with
    | none =>
      obtain ⟨q, hq⟩ := exists_gt l.value.toRat
      simpa using ⟨q, Limit.mem_above_of_lt hq⟩
    | some k =>
      have hbetween := @above_inter_below_nonempty l k
      simp only [Set.Nonempty, Set.mem_inter_iff] at hbetween
      simp [hbetween, and_assoc]

theorem toSet_low (l : Limit) : toSet ⟨some l, none⟩ = l.above := by
  ext q
  simp [toSet]

theorem toSet_high (k : Limit) : toSet ⟨none, some k⟩ = k.below := by
  ext q
  simp [toSet]

theorem toSet_both (l k : Limit) : toSet ⟨some l, some k⟩ = l.above ∩ k.below := by
  ext q
  simp [toSet]

theorem toSet_point (x : Number) : toSet ⟨some ⟨x, true⟩, some ⟨x, true⟩⟩ = {x.toRat} := by
  simp [toSet_both, Limit.above, Limit.below, Set.Ici_inter_Iic]

theorem toSet_bounds (x y : Number) :
    toSet (if x ≤ y then ⟨some ⟨x, true⟩, some ⟨y, true⟩⟩ else ⟨some ⟨y, true⟩, some ⟨x, true⟩⟩) =
      Set.uIcc x.toRat y.toRat := by
  split
  · next h =>
    rw [Set.uIcc_of_le (Number.toRat_le.2 h)]
    simp [toSet_both, Limit.above, Limit.below, Set.Ici_inter_Iic]
  · next h =>
    rw [← Number.toRat_le, not_le] at h
    rw [Set.uIcc_of_ge (le_of_lt h)]
    simp [toSet_both, Limit.above, Limit.below, Set.Ici_inter_Iic]

theorem of?_between {v : Value} : of? .between v = some i ↔
    ∃ a b x y, v = .list [a, b] ∧ a.number? = some x ∧ b.number? = some y ∧
      (if x ≤ y then ⟨some ⟨x, true⟩, some ⟨y, true⟩⟩
        else ⟨some ⟨y, true⟩, some ⟨x, true⟩⟩ : Interval) = i := by
  simp only [of?, Option.bind_eq_bind, Option.bind_eq_some_iff, Prod.exists, range?_eq_some,
    Option.pure_def, Option.some.injEq]
  constructor
  · rintro ⟨a, b, hv, x, hx, y, hy, rfl⟩
    refine ⟨a, b, x, y, hv, hx, hy, ?_⟩
    split <;> rfl
  · rintro ⟨a, b, x, y, hv, hx, hy, rfl⟩
    refine ⟨a, b, hv, x, hx, y, hy, ?_⟩
    split <;> rfl

end Interval

/-- The interval of a condition is the set that the condition accepts. -/
theorem accepts_iff {c : Condition} {s : Set ℚ} :
    c.Accepts s ↔ ∃ i, Interval.of? c.operator c.value = some i ∧ i.toSet = s := by
  constructor
  · rintro (⟨hop, hx⟩ | ⟨hop, hx⟩ | ⟨hop, hx⟩ | ⟨hop, hx⟩ | ⟨hop, hx⟩ | ⟨hop, hv, hx, hy⟩)
    case between =>
      rw [hop]
      exact ⟨_, Interval.of?_between.2 ⟨_, _, _, _, hv, hx, hy, rfl⟩, Interval.toSet_bounds _ _⟩
    all_goals
      rw [hop]
      refine ⟨_, congrArg (Option.map _) (congrArg (Option.map _) hx), ?_⟩
    · exact Interval.toSet_point _
    · exact Interval.toSet_low _
    · exact Interval.toSet_low _
    · exact Interval.toSet_high _
    · exact Interval.toSet_high _
  · rintro ⟨i, hi, rfl⟩
    cases hop : c.operator
    case between =>
      rw [hop] at hi
      obtain ⟨a, b, x, y, hv, hx, hy, rfl⟩ := Interval.of?_between.1 hi
      rw [Interval.toSet_bounds]
      exact .between hop hv hx hy
    all_goals
      simp only [hop, Interval.of?, Option.map_map, Option.map_eq_some_iff, reduceCtorEq] at hi
    all_goals
      obtain ⟨x, hx, rfl⟩ := hi
    case equals =>
      rw [Function.comp_apply, Interval.toSet_point]
      exact .equals hop hx
    case greaterThan =>
      rw [Function.comp_apply, Interval.toSet_low]
      exact .greater hop hx
    case greaterThanOrEqual =>
      rw [Function.comp_apply, Interval.toSet_low]
      exact .greaterOrEqual hop hx
    case lessThan =>
      rw [Function.comp_apply, Interval.toSet_high]
      exact .less hop hx
    case lessThanOrEqual =>
      rw [Function.comp_apply, Interval.toSet_high]
      exact .lessOrEqual hop hx

end Lint

end Criteria
