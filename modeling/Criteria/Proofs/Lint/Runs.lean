import Criteria.Lint.Contradiction
import Mathlib.Data.List.Basic

namespace Criteria

namespace Group

/-- The condition at an index, if the child there is one. -/
def condition? (g : Group) (i : Nat) : Option Condition := g.children[i]?.bind Node.toCondition?

/-- Whether the connector after every child from one index to another is AND. -/
def Joined (g : Group) (i j : Nat) : Prop := ∀ k < j, i ≤ k → g.connector? k = some .and

instance (g : Group) (i j : Nat) : Decidable (g.Joined i j) :=
  inferInstanceAs (Decidable (∀ k < j, i ≤ k → g.connector? k = some .and))

variable {h : Header} {n : Node} {ns : List Node} {i j : Nat}

theorem condition?_eq_some {g : Group} {c : Condition} :
    g.condition? i = some c ↔ g.children[i]? = some (.condition c) := by
  rw [condition?, Option.bind_eq_some_iff]
  constructor
  · rintro ⟨n, hn, hc⟩
    cases n with
    | condition d => exact Option.some.inj hc ▸ hn
    | group k children => cases hc
  · exact fun h => ⟨_, h, rfl⟩

theorem lt_length_of_condition? {g : Group} {c : Condition} (h : g.condition? i = some c) :
    i < g.children.length :=
  (List.getElem?_eq_some_iff.1 (condition?_eq_some.1 h)).1

theorem condition?_succ : condition? ⟨h, n :: ns⟩ (i + 1) = condition? ⟨h, ns⟩ i := rfl

theorem connector?_succ : connector? ⟨h, n :: ns⟩ (i + 1) = connector? ⟨h, ns⟩ i := by
  simp only [connector?, List.length_cons, Nat.add_lt_add_iff_right, List.getElem?_cons_succ]
  rfl

theorem joined_succ : Joined ⟨h, n :: ns⟩ (i + 1) (j + 1) ↔ Joined ⟨h, ns⟩ i j := by
  constructor
  · intro hg k hk hik
    rw [← connector?_succ (n := n)]
    exact hg (k + 1) (by omega) (by omega)
  · intro hg k hk hik
    obtain ⟨k, rfl⟩ : ∃ m, k = m + 1 := ⟨k - 1, by omega⟩
    rw [connector?_succ]
    exact hg k (by omega) (by omega)

theorem joined_self (g : Group) (i : Nat) : g.Joined i i :=
  fun _ hk hik => absurd hik (Nat.not_le_of_lt hk)

theorem joined_zero_succ {m : Node} : Joined ⟨h, n :: m :: ns⟩ 0 (j + 1) ↔
    n.edge.getD h.combinator = .and ∧ Joined ⟨h, m :: ns⟩ 0 j := by
  have hzero : connector? ⟨h, n :: m :: ns⟩ 0 = some (n.edge.getD h.combinator) := rfl
  have hsucc := @joined_succ h n (m :: ns) 0 j
  rw [← hsucc, ← Option.some_inj, ← hzero]
  constructor
  · intro hg
    exact ⟨hg 0 (Nat.succ_pos j) (Nat.zero_le 0), fun k hk _ => hg k hk (Nat.zero_le k)⟩
  · rintro ⟨hand, hg⟩ k hk -
    cases k with
    | zero => exact hand
    | succ k => exact hg (k + 1) hk (Nat.succ_le_succ (Nat.zero_le k))

end Group

namespace Lint

variable {combinator : Combinator} {h : Header} {n : Node} {ns : List Node}

/-- The conditions among the next nodes that an unbroken chain of AND leads to from a node. -/
def reached (combinator : Combinator) (n : Node) : List Node → List Condition
  | [] => []
  | m :: ns =>
    if n.edge.getD combinator = .and then m.toCondition?.toList ++ reached combinator m ns else []

variable {run : List Condition} {m : Node}

theorem andRuns_of_and (hand : n.edge.getD combinator = .and) :
    andRuns combinator run (n :: m :: ns)
      = andRuns combinator (run ++ n.toCondition?.toList) (m :: ns) := by
  rw [andRuns, hand]
  rfl

theorem andRuns_of_not_and (hand : n.edge.getD combinator ≠ .and) :
    andRuns combinator run (n :: m :: ns)
      = (run ++ n.toCondition?.toList) :: andRuns combinator [] (m :: ns) := by
  rw [andRuns, if_pos (by simp [hand])]

theorem andRuns_cons (n : Node) (ns : List Node) : ∃ runs, ∀ run,
    andRuns combinator run (n :: ns)
      = (run ++ n.toCondition?.toList ++ reached combinator n ns) :: runs := by
  induction ns generalizing n with
  | nil => exact ⟨[], fun run => by simp [andRuns, reached]⟩
  | cons m ns ih =>
    by_cases hand : n.edge.getD combinator = .and
    · obtain ⟨runs, hruns⟩ := ih m
      refine ⟨runs, fun run => ?_⟩
      rw [andRuns_of_and hand, hruns, reached, if_pos hand]
      simp only [List.append_assoc]
    · refine ⟨andRuns combinator [] (m :: ns), fun run => ?_⟩
      rw [andRuns_of_not_and hand, reached, if_neg hand, List.append_nil]

variable {α β : Type}

theorem pairs_map (f : α → β) (as : List α) :
    pairs (as.map f) = (pairs as).map fun p => (f p.1, f p.2) := by
  induction as with
  | nil => rfl
  | cons a as ih => simp only [List.map_cons, pairs, ih, List.map_append, List.map_map]; rfl

theorem pairs_filterMap (f : α → Option β) (as : List α) :
    pairs (as.filterMap f) =
      (pairs as).filterMap fun p => (f p.1).bind fun b => (f p.2).map (b, ·) := by
  induction as with
  | nil => rfl
  | cons a as ih =>
    rw [List.filterMap_cons, pairs, List.filterMap_append, ← ih, List.filterMap_map]
    cases ha : f a with
    | none => simp [ha]
    | some b => simp [ha, pairs, List.map_filterMap]

theorem pairs_range_succ (n : Nat) :
    pairs (List.range (n + 1)) = (List.range n).map (fun j => (0, j + 1))
      ++ (pairs (List.range n)).map fun p => (p.1 + 1, p.2 + 1) := by
  rw [List.range_succ_eq_map, pairs, List.map_map, pairs_map]
  rfl

/-- The order in which pairs of indices come: by the first one, then by the second one. -/
def Precedes (p q : Nat × Nat) : Prop := p.1 < q.1 ∨ p.1 = q.1 ∧ p.2 < q.2

variable {is : List Nat} {i j : Nat}

theorem mem_pairs (h : is.Pairwise (· < ·)) : (i, j) ∈ pairs is ↔ i ∈ is ∧ j ∈ is ∧ i < j := by
  induction h with
  | nil => simp [pairs]
  | @cons k is hk _ ih =>
    simp only [pairs, List.mem_append, List.mem_map, Prod.mk.injEq, ih, List.mem_cons]
    constructor
    · rintro (⟨l, hl, rfl, rfl⟩ | ⟨hi, hj, hij⟩)
      · exact ⟨.inl rfl, .inr hl, hk l hl⟩
      · exact ⟨.inr hi, .inr hj, hij⟩
    · rintro ⟨rfl | hi, rfl | hj, hij⟩
      · exact absurd hij (Nat.lt_irrefl _)
      · exact .inl ⟨j, hj, rfl, rfl⟩
      · exact absurd (hk i hi) (Nat.lt_asymm hij)
      · exact .inr ⟨hi, hj, hij⟩

theorem pairwise_pairs (h : is.Pairwise (· < ·)) : (pairs is).Pairwise Precedes := by
  induction h with
  | nil => exact .nil
  | @cons k is hk his ih =>
    rw [pairs, List.pairwise_append]
    refine ⟨List.pairwise_map.2 (his.imp fun hlt => .inr ⟨rfl, hlt⟩), ih, fun p hp q hq => ?_⟩
    obtain ⟨l, -, rfl⟩ := List.mem_map.1 hp
    exact .inl (hk q.1 ((mem_pairs his).1 hq).1)

theorem reached_eq (h : Header) (n : Node) (ns : List Node) : reached h.combinator n ns =
    (List.range ns.length).filterMap fun j =>
      if Group.Joined ⟨h, n :: ns⟩ 0 (j + 1) then Group.condition? ⟨h, ns⟩ j else none := by
  induction ns generalizing n with
  | nil => rfl
  | cons m ns ih =>
    have hfirst : Group.condition? ⟨h, m :: ns⟩ 0 = m.toCondition? := rfl
    rw [List.length_cons, List.range_succ_eq_map, List.filterMap_cons, List.filterMap_map]
    simp only [Function.comp_def, Nat.succ_eq_add_one, Group.joined_zero_succ, Group.joined_self,
      Group.condition?_succ, hfirst, and_true]
    rw [reached]
    by_cases hand : n.edge.getD h.combinator = .and
    · simp only [hand, if_true, true_and, ih m]
      cases m.toCondition? <;> rfl
    · simp [hand]

theorem flatMap_pairs_cons (n : Node) (ns : List Node) :
    (andRuns combinator [] (n :: ns)).flatMap pairs =
      n.toCondition?.toList.flatMap (fun c => (reached combinator n ns).map (c, ·))
        ++ (andRuns combinator [] ns).flatMap pairs := by
  have hlone : pairs n.toCondition?.toList = [] := by cases n.toCondition? <;> rfl
  cases ns with
  | nil => simp [andRuns, reached, hlone]
  | cons m ns =>
    by_cases hand : n.edge.getD combinator = .and
    · obtain ⟨runs, hruns⟩ := @andRuns_cons combinator m ns
      rw [andRuns_of_and hand, hruns, hruns, reached, if_pos hand]
      cases n.toCondition? <;> simp [pairs]
    · rw [andRuns_of_not_and hand, reached, if_neg hand]
      simp [hlone]

/-- The pairs of all runs are the pairs of conditions that a chain of AND joins. -/
theorem flatMap_pairs_andRuns (g : Group) :
    (andRuns g.header.combinator [] g.children).flatMap pairs =
      (pairs (List.range g.children.length)).filterMap fun p =>
        if g.Joined p.1 p.2 then
          (g.condition? p.1).bind fun l => (g.condition? p.2).map (l, ·)
        else none := by
  obtain ⟨h, ns⟩ := g
  induction ns with
  | nil => rfl
  | cons n ns ih =>
    have hfirst : Group.condition? ⟨h, n :: ns⟩ 0 = n.toCondition? := rfl
    dsimp only at ih ⊢
    rw [flatMap_pairs_cons, ih, List.length_cons, pairs_range_succ, List.filterMap_append,
      List.filterMap_map, List.filterMap_map, reached_eq]
    simp only [Function.comp_def, Group.joined_succ, Group.condition?_succ, hfirst]
    congr 1
    cases n.toCondition? with
    | none => simp
    | some c => simp [List.map_filterMap, apply_ite]

end Lint

end Criteria
