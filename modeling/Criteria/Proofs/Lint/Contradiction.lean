import Criteria.Proofs.Lint.Interval
import Criteria.Proofs.Lint.Runs

namespace Criteria

namespace Lint

/-- Whether two conditions are on one number field and accept no rational in common. -/
structure Irreconcilable (catalog : Catalog) (l r : Condition) : Prop where
  field : l.field = r.field
  number : ∃ f, catalog.get? l.field = some f ∧ f.type = .number
  disjoint : ∃ s t, l.Accepts s ∧ r.Accepts t ∧ s ∩ t = ∅

variable {catalog : Catalog} {ctx : Context} {c l r : Condition} {x y : Condition × Interval}
  {f : Finding}

theorem ranged?_eq_some : ranged? catalog c = some x ↔
    (∃ f, catalog.get? c.field = some f ∧ f.type = .number) ∧ x.1 = c ∧
      Interval.of? c.operator c.value = some x.2 := by
  obtain ⟨d, i⟩ := x
  rw [ranged?]
  cases catalog.get? c.field with
  | none => simp
  | some f =>
    by_cases hf : f.type = .number
    · simp [hf, Option.bind_eq_some_iff, and_comm, eq_comm (a := c)]
    · simp [hf, failure]

theorem contradicts_iff : contradicts x y = true ↔
    x.1.field = y.1.field ∧ x.2.toSet ∩ y.2.toSet = ∅ := by
  rw [contradicts, Bool.and_eq_true, decide_eq_true_eq, Bool.not_eq_true', ← Bool.not_eq_true,
    Interval.overlaps_iff, Set.not_nonempty_iff_eq_empty]

/-- The finding on two conditions of a run, if there is one. -/
def conflict? (ctx : Context) (l r : Condition) : Option Finding :=
  (ranged? ctx.catalog l).bind fun x => (ranged? ctx.catalog r).bind fun y =>
    if contradicts x y then some (contradiction ctx x.1 y.1) else none

theorem conflict?_eq_some : conflict? ctx l r = some f ↔
    Irreconcilable ctx.catalog l r ∧ f = contradiction ctx l r := by
  simp only [conflict?, Option.bind_eq_some_iff, Option.ite_none_right_eq_some, contradicts_iff,
    ranged?_eq_some, Prod.exists, Option.some.injEq]
  constructor
  · rintro ⟨_, i, ⟨hnumber, rfl, hi⟩, _, j, ⟨-, rfl, hj⟩, ⟨hfield, hdisjoint⟩, rfl⟩
    exact ⟨⟨hfield, hnumber, _, _, accepts_iff.2 ⟨i, hi, rfl⟩, accepts_iff.2 ⟨j, hj, rfl⟩,
      hdisjoint⟩, rfl⟩
  · rintro ⟨⟨hfield, hnumber, _, _, hl, hr, hdisjoint⟩, rfl⟩
    obtain ⟨i, hi, rfl⟩ := accepts_iff.1 hl
    obtain ⟨j, hj, rfl⟩ := accepts_iff.1 hr
    exact ⟨l, i, ⟨hnumber, rfl, hi⟩, r, j, ⟨hfield ▸ hnumber, rfl, hj⟩, ⟨hfield, hdisjoint⟩, rfl⟩

theorem satisfiable_run (ctx : Context) (run : List Condition) :
    ((pairs (run.filterMap (ranged? ctx.catalog))).filter fun (l, r) => contradicts l r).map
      (fun (l, r) => contradiction ctx l.1 r.1) =
        (pairs run).filterMap fun p => conflict? ctx p.1 p.2 := by
  rw [pairs_filterMap, List.filter_filterMap, List.map_filterMap]
  congr 1
  funext p
  rw [conflict?]
  cases ranged? ctx.catalog p.1 with
  | none => rfl
  | some x =>
    cases ranged? ctx.catalog p.2 with
    | none => rfl
    | some y => cases h : contradicts x y <;> simp [Option.filter, h]

theorem satisfiable_group (ctx : Context) (g : Group) : satisfiable.group ctx g =
    ((andRuns g.header.combinator [] g.children).flatMap pairs).filterMap fun p =>
      conflict? ctx p.1 p.2 := by
  rw [List.filterMap_flatMap]
  exact congrArg (List.flatMap · _) (funext (satisfiable_run ctx))

theorem forall₂_filterMap {α β : Type} (k : α → Option β) (as : List α) :
    List.Forall₂ (fun a b => k a = some b) (as.filter fun a => (k a).isSome) (as.filterMap k) := by
  induction as with
  | nil => exact .nil
  | cons a as ih =>
    cases ha : k a with
    | none => simpa [List.filter_cons, List.filterMap_cons, ha] using ih
    | some b =>
      simp only [List.filter_cons, List.filterMap_cons, ha, Option.isSome_some, if_true]
      exact .cons ha ih

/-- The finding on the children at two indices, if there is one. -/
def conflictAt? (ctx : Context) (g : Group) (p : Nat × Nat) : Option Finding :=
  if g.Joined p.1 p.2 then
    (g.condition? p.1).bind fun l => (g.condition? p.2).bind fun r => conflict? ctx l r
  else none

theorem conflictAt?_eq_some {g : Group} {p : Nat × Nat} : conflictAt? ctx g p = some f ↔
    g.Joined p.1 p.2 ∧ ∃ l r, g.condition? p.1 = some l ∧ g.condition? p.2 = some r ∧
      Irreconcilable ctx.catalog l r ∧ f = contradiction ctx l r := by
  simp only [conflictAt?, Option.ite_none_right_eq_some, Option.bind_eq_some_iff, conflict?_eq_some,
    exists_and_left]

theorem satisfiable_eq (ctx : Context) (g : Group) : satisfiable.group ctx g =
    (pairs (List.range g.children.length)).filterMap (conflictAt? ctx g) := by
  rw [satisfiable_group, flatMap_pairs_andRuns, List.filterMap_filterMap]
  congr 1
  funext p
  rw [conflictAt?]
  split <;> simp [Option.bind_assoc, Option.bind_map]

end Lint

open Lint

/-- The linter warns of a contradiction for just the pairs of children that are irreconcilable
conditions, the earlier one first, with AND for the connector after every child from the one up to
the other. Each pair is reported once, in document order. -/
theorem contradictions_reported (ctx : Context) (g : Group) :
    ∃ ps : List (Nat × Nat), ps.Pairwise Precedes ∧
      (∀ i j, (i, j) ∈ ps ↔ i < j ∧ g.Joined i j ∧
        ∃ l r, g.condition? i = some l ∧ g.condition? j = some r ∧
          Irreconcilable ctx.catalog l r) ∧
      List.Forall₂ (fun p f => f.level = .warning ∧
        ∃ l r, g.condition? p.1 = some l ∧ g.condition? p.2 = some r ∧ f = contradiction ctx l r)
        ps (satisfiable.group ctx g) := by
  refine ⟨(pairs (List.range g.children.length)).filter fun p => (conflictAt? ctx g p).isSome,
    (pairwise_pairs List.pairwise_lt_range).filter _, fun i j => ?_, ?_⟩
  · simp only [List.mem_filter, mem_pairs List.pairwise_lt_range, List.mem_range,
      Option.isSome_iff_exists, conflictAt?_eq_some]
    constructor
    · rintro ⟨⟨-, -, hij⟩, f, hjoined, l, r, hl, hr, hlr, -⟩
      exact ⟨hij, hjoined, l, r, hl, hr, hlr⟩
    · rintro ⟨hij, hjoined, l, r, hl, hr, hlr⟩
      have hj : j < g.children.length := Group.lt_length_of_condition? hr
      exact ⟨⟨hij.trans hj, hj, hij⟩, _, hjoined, l, r, hl, hr, hlr, rfl⟩
  · rw [satisfiable_eq]
    refine (forall₂_filterMap _ _).imp fun p f hf => ?_
    obtain ⟨-, l, r, hl, hr, -, rfl⟩ := conflictAt?_eq_some.1 hf
    exact ⟨rfl, l, r, hl, hr, rfl⟩

end Criteria
