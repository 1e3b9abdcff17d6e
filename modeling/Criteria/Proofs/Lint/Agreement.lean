import Criteria.Proofs.Lint.Runs
import Criteria.Proofs.Sql.Row

namespace Criteria

namespace Lint

/-- Whether two positions lie in one of several lists; positions are counted through all of them,
and the second one is not before the first. -/
def InOneRun {α : Type} : List (List α) → Nat → Nat → Prop
  | [], _, _ => False
  | run :: runs, p, q =>
    q < run.length ∨ run.length ≤ p ∧ InOneRun runs (p - run.length) (q - run.length)

/-- How many conditions stand among the children before an index. -/
def conditionsBefore (g : Group) (i : Nat) : Nat :=
  ((g.children.take i).filterMap Node.toCondition?).length

/-- Whether the linter has the children at two indices in one run. -/
def SameRun (g : Group) (i j : Nat) : Prop :=
  InOneRun (andRuns g.header.combinator [] g.children) (conditionsBefore g i)
    (conditionsBefore g j)

variable {α : Type} {run run' : List α} {runs : List (List α)} {p q i j : Nat} {c : Condition}
  {h : Header} {n : Node} {ns : List Node}

theorem inOneRun_append : InOneRun ((run ++ run') :: runs) (run.length + p) (run.length + q) ↔
    InOneRun (run' :: runs) p q := by
  simp only [InOneRun, List.length_append, Nat.add_lt_add_iff_left, Nat.add_le_add_iff_left,
    Nat.add_sub_add_left]

theorem inOneRun_cons : InOneRun (run :: runs) (run.length + p) (run.length + q) ↔
    InOneRun runs p q := by
  have hnot : ¬ run.length + q < run.length := by omega
  simp only [InOneRun, hnot, false_or, Nat.le_add_right, true_and, Nat.add_sub_cancel_left]

theorem conditionsBefore_zero (g : Group) : conditionsBefore g 0 = 0 := rfl

theorem conditionsBefore_succ : conditionsBefore ⟨h, n :: ns⟩ (i + 1) =
    n.toCondition?.toList.length + conditionsBefore ⟨h, ns⟩ i := by
  cases hn : n.toCondition? <;> simp [conditionsBefore, hn, Nat.add_comm]

theorem flatten_andRuns_cons (combinator : Combinator) (run : List Condition) (n : Node)
    (ns : List Node) : (andRuns combinator run (n :: ns)).flatten =
      run ++ (n :: ns).filterMap Node.toCondition? := by
  have hcons (n : Node) (ns : List Node) : (n :: ns).filterMap Node.toCondition? =
      n.toCondition?.toList ++ ns.filterMap Node.toCondition? := by
    cases hn : n.toCondition? <;> simp [hn]
  induction ns generalizing n run with
  | nil => simp [andRuns, hcons]
  | cons m ns ih =>
    by_cases hand : n.edge.getD combinator = .and
    · rw [andRuns_of_and hand, ih, hcons n, List.append_assoc]
    · rw [andRuns_of_not_and hand, List.flatten_cons, ih, hcons n, List.nil_append,
        List.append_assoc]

theorem flatten_andRuns (g : Group) :
    (andRuns g.header.combinator [] g.children).flatten =
      g.children.filterMap Node.toCondition? := by
  cases g.children with
  | nil => rfl
  | cons n ns => exact flatten_andRuns_cons g.header.combinator [] n ns

theorem conditionsBefore_lt_reached (hj : Group.condition? ⟨h, ns⟩ j = some c) :
    conditionsBefore ⟨h, ns⟩ j < (reached h.combinator n ns).length ↔
      Group.Joined ⟨h, n :: ns⟩ 0 (j + 1) := by
  induction ns generalizing n j with
  | nil => cases hj
  | cons m ns ih =>
    rw [Group.joined_zero_succ, reached]
    by_cases hand : n.edge.getD h.combinator = .and
    · rw [if_pos hand, List.length_append, and_iff_right hand]
      cases j with
      | zero =>
        have hm : m.toCondition? = some c := hj
        simp only [conditionsBefore_zero, hm, Option.toList_some, List.length_singleton,
          Group.joined_self, iff_true]
        exact Nat.add_pos_left Nat.one_pos _
      | succ j =>
        rw [conditionsBefore_succ, Nat.add_lt_add_iff_left]
        exact ih hj
    · simp [hand]

/-- Two conditions are in one run just if a chain of AND joins them. -/
theorem sameRun_iff_joined {g : Group} {l r : Condition} (hij : i < j)
    (hi : g.condition? i = some l) (hj : g.condition? j = some r) :
    SameRun g i j ↔ g.Joined i j := by
  obtain ⟨h, ns⟩ := g
  induction ns generalizing i j with
  | nil => cases hi
  | cons n ns ih =>
    obtain ⟨j, rfl⟩ : ∃ k, j = k + 1 := ⟨j - 1, by omega⟩
    rw [Group.condition?_succ] at hj
    rw [SameRun, conditionsBefore_succ]
    cases i with
    | zero =>
      have hn : n.toCondition? = some l := hi
      obtain ⟨runs, hruns⟩ := @andRuns_cons h.combinator n ns
      rw [← conditionsBefore_lt_reached hj, hruns]
      simp only [InOneRun, conditionsBefore_zero, hn, Option.toList_some, List.nil_append,
        List.singleton_append, List.length_cons, List.length_nil]
      omega
    | succ i =>
      have hi : Group.condition? ⟨h, ns⟩ i = some l := hi
      rw [conditionsBefore_succ, Group.joined_succ, ← ih (Nat.lt_of_succ_lt_succ hij) hi hj,
        SameRun]
      cases ns with
      | nil => cases hi
      | cons m ns =>
        obtain ⟨runs, hruns⟩ := @andRuns_cons h.combinator m ns
        dsimp only
        by_cases hand : n.edge.getD h.combinator = .and
        · rw [andRuns_of_and hand, hruns, hruns, List.append_assoc, List.append_assoc,
            List.nil_append, List.nil_append, inOneRun_append]
        · rw [andRuns_of_not_and hand, List.nil_append, inOneRun_cons]

/-- How many children that hold a condition stand before an index. -/
def partsBefore (g : Group) (i : Nat) : Nat :=
  ((g.children.take i).filter (·.conditions ≠ [])).length

/-- Whether the text of a group has an unbroken chain of AND from the child at one index to the one
at another: read as a row of parts, it has AND for every connector between them. -/
def ChainInText (catalog : Catalog) (options : Sql.Options) (g : Group) (i j : Nat) : Prop :=
  ∃ cs, Sql.IsRow g.header.negated (Sql.partTexts catalog options g) cs
      (Sql.compile g catalog options).toList ∧
    ∀ c ∈ (cs.take (partsBefore g j)).drop (partsBefore g i), c = .and

theorem getElem?_filterMap {β γ : Type} {f : β → Option γ} {bs : List β} {b : β} {x : γ} {k : Nat}
    (hk : bs[k]? = some b) (hf : f b = some x) :
    (bs.filterMap f)[((bs.take k).filterMap f).length]? = some x := by
  obtain ⟨hlt, rfl⟩ := List.getElem?_eq_some_iff.1 hk
  have hsplit : bs = bs.take k ++ bs[k] :: bs.drop (k + 1) := by
    rw [← List.drop_eq_getElem_cons hlt, List.take_append_drop]
  have hfilter : bs.filterMap f =
      (bs.take k).filterMap f ++ x :: (bs.drop (k + 1)).filterMap f := by
    conv_lhs => rw [hsplit, List.filterMap_append, List.filterMap_cons_some hf]
  rw [hfilter, List.getElem?_append_right (Nat.le_refl _), Nat.sub_self, List.getElem?_cons_zero]

theorem flatten_andRuns_getElem? {g : Group} (hi : g.condition? i = some c) :
    (andRuns g.header.combinator [] g.children).flatten[conditionsBefore g i]? = some c := by
  rw [flatten_andRuns]
  exact getElem?_filterMap (Group.condition?_eq_some.1 hi) rfl

theorem partTexts_getElem? {catalog : Catalog} {options : Sql.Options} {g : Group}
    (hi : g.condition? i = some c) : (Sql.partTexts catalog options g)[partsBefore g i]? =
      some (Sql.Clause.predicate (Sql.predicate catalog options c)).chars := by
  have hlength : partsBefore g i = ((g.children.take i).filterMap fun n =>
      (n.render? (Sql.rendering catalog options)).map Sql.Clause.chars).length := by
    have hparts := congrArg List.length
      (Node.parts_map_snd (r := Sql.rendering catalog options) g.header (g.children.take i))
    rw [List.length_map, List.length_map] at hparts
    rw [← List.map_filterMap, ← Node.parts_map_fst g.header, List.length_map, List.length_map,
      hparts, partsBefore]
  rw [hlength]
  exact getElem?_filterMap (Group.condition?_eq_some.1 hi) rfl

theorem mem_take_drop : n ∈ (ns.take j).drop i ↔ ∃ k, i ≤ k ∧ k < j ∧ ns[k]? = some n := by
  rw [List.mem_iff_getElem?]
  simp only [List.getElem?_drop, List.getElem?_take, Option.ite_none_right_eq_some]
  constructor
  · rintro ⟨k, hk, hn⟩
    exact ⟨i + k, Nat.le_add_right i k, hk, hn⟩
  · rintro ⟨k, hik, hkj, hn⟩
    obtain ⟨k, rfl⟩ := Nat.exists_eq_add_of_le hik
    exact ⟨k, hkj, hn⟩

theorem joined_iff {g : Group} (hj : j < g.children.length) :
    g.Joined i j ↔ ∀ n ∈ (g.children.take j).drop i, g.combinatorOf n = .and := by
  have hconnector {k : Nat} (hk : k < j) :
      g.connector? k = g.children[k]?.map g.combinatorOf :=
    if_pos (Nat.lt_of_le_of_lt hk hj)
  constructor
  · intro hg n hn
    obtain ⟨k, hik, hkj, hn⟩ := mem_take_drop.1 hn
    have hand := hg k hkj hik
    rw [hconnector hkj, hn] at hand
    exact Option.some.inj hand
  · intro hg k hkj hik
    have hn : g.children[k]? = some g.children[k] := List.getElem?_eq_getElem (Nat.lt_trans hkj hj)
    rw [hconnector hkj, hn, Option.map_some, hg _ (mem_take_drop.2 ⟨k, hik, hkj, hn⟩)]

/-- The connectors between two parts are those after the children from the one up to the other, of
those that hold a condition. -/
theorem connectors_between {g : Group} (hij : i ≤ j) (hj : g.condition? j = some c) :
    ((Node.connectors g.header g.children).take (partsBefore g j)).drop (partsBefore g i) =
      (((g.children.take j).drop i).filter (·.conditions ≠ [])).map g.combinatorOf := by
  have hrest : ((g.children.drop j).filter (·.conditions ≠ [])).map g.combinatorOf ≠ [] := by
    have hmem : Node.condition c ∈ g.children.drop j :=
      List.mem_iff_getElem?.2 ⟨0, (List.getElem?_drop ..).trans (Group.condition?_eq_some.1 hj)⟩
    have hkept : Node.condition c ∈ (g.children.drop j).filter (·.conditions ≠ []) :=
      List.mem_filter.2 ⟨hmem, decide_eq_true (List.cons_ne_nil c [])⟩
    exact List.ne_nil_of_mem (List.mem_map_of_mem hkept)
  have hconnectors : Node.connectors g.header g.children =
      ((g.children.take j).filter (·.conditions ≠ [])).map g.combinatorOf ++
        (((g.children.drop j).filter (·.conditions ≠ [])).map g.combinatorOf).dropLast := by
    rw [← List.dropLast_append_of_ne_nil hrest, ← List.map_append, ← List.filter_append,
      List.take_append_drop]
    rfl
  have hbefore : (g.children.take j).filter (·.conditions ≠ []) =
      (g.children.take i).filter (·.conditions ≠ []) ++
        ((g.children.take j).drop i).filter (·.conditions ≠ []) := by
    have htake : (g.children.take j).take i = g.children.take i := by
      rw [List.take_take, Nat.min_eq_left hij]
    rw [← List.filter_append, ← htake, List.take_append_drop]
  have hlength (k : Nat) : partsBefore g k =
      (((g.children.take k).filter (·.conditions ≠ [])).map g.combinatorOf).length :=
    (List.length_map _).symm
  rw [hconnectors, hlength j, List.take_left, hbefore, List.map_append, hlength i, List.drop_left]

theorem chainInText_iff {catalog : Catalog} {options : Sql.Options} {g : Group} (hij : i ≤ j)
    (hj : g.condition? j = some c) :
    ChainInText catalog options g i j ↔
      ∀ n ∈ (g.children.take j).drop i, n.conditions ≠ [] → g.combinatorOf n = .and := by
  have hg : g.conditions ≠ [] := by
    intro hnil
    have hmem := List.mem_of_getElem? (Group.condition?_eq_some.1 hj)
    cases Node.conditionsOf_eq_nil.1 hnil _ hmem
  have hrow := Sql.isRow_compile catalog options hg
  have hbetween : (∀ c ∈ ((Node.connectors g.header g.children).take (partsBefore g j)).drop
      (partsBefore g i), c = .and) ↔
        ∀ n ∈ (g.children.take j).drop i, n.conditions ≠ [] → g.combinatorOf n = .and := by
    rw [connectors_between hij hj]
    simp only [List.forall_mem_map, List.mem_filter, decide_eq_true_eq, and_imp]
  rw [← hbetween]
  constructor
  · rintro ⟨cs, hcs, hand⟩
    rwa [hcs.unique hrow] at hand
  · exact fun hand => ⟨_, hrow, hand⟩

end Lint

open Lint

/-- Each condition of a group has its place among the runs of the linter, and its text among the
parts of the text of the group. Two conditions are in one run just if the text has an unbroken chain
of AND from the one to the other, and every child without conditions between them is followed by AND
as well, which the text leaves out. -/
theorem same_run_iff_chain_in_text (catalog : Catalog) (options : Sql.Options) (g : Group) :
    (∀ k c, g.condition? k = some c →
      (andRuns g.header.combinator [] g.children).flatten[conditionsBefore g k]? = some c ∧
        (Sql.partTexts catalog options g)[partsBefore g k]? =
          some (Sql.Clause.predicate (Sql.predicate catalog options c)).chars) ∧
      ∀ i j l r, i < j → g.condition? i = some l → g.condition? j = some r →
        (SameRun g i j ↔ ChainInText catalog options g i j ∧
          ∀ k n, i < k → k < j → g.children[k]? = some n → n.conditions = [] →
            g.combinatorOf n = .and) := by
  refine ⟨fun k c hk => ⟨flatten_andRuns_getElem? hk, partTexts_getElem? hk⟩,
    fun i j l r hij hi hj => ?_⟩
  rw [sameRun_iff_joined hij hi hj, joined_iff (Group.lt_length_of_condition? hj),
    chainInText_iff (Nat.le_of_lt hij) hj]
  simp only [mem_take_drop]
  constructor
  · intro hand
    exact ⟨fun n hn _ => hand n hn, fun k n hik hkj hn _ => hand n ⟨k, Nat.le_of_lt hik, hkj, hn⟩⟩
  · rintro ⟨hfilled, hempty⟩ n ⟨k, hik, hkj, hn⟩
    by_cases hc : n.conditions = []
    · refine hempty k n (Nat.lt_of_le_of_ne hik ?_) hkj hn hc
      -- the first one is a condition itself
      rintro rfl
      cases (Group.condition?_eq_some.1 hi).symm.trans hn
      cases hc
    · exact hfilled n ⟨k, hik, hkj, hn⟩ hc

/-- An empty group between two conditions, with AND all along. -/
theorem same_run_iff_chain_in_text_empty :
    let l : Condition := ⟨"a", "x", .greaterThan, .text "10", none⟩
    let r : Condition := ⟨"b", "x", .lessThan, .text "5", none⟩
    let g : Group := ⟨⟨"g", .and, false, none⟩,
      [.condition l, (Group.empty "e").toNode, .condition r]⟩
    let catalog : Catalog := ⟨[⟨"x", "X", .number, none, [], none⟩]⟩
    g.condition? 0 = some l ∧ g.condition? 2 = some r ∧ ChainInText catalog {} g 0 2 := by
  intro l r g catalog
  have hl : g.condition? 0 = some l := rfl
  have hr : g.condition? 2 = some r := rfl
  have hjoined : g.Joined 0 2 := by decide
  have hsame : SameRun g 0 2 := (sameRun_iff_joined (by decide) hl hr).2 hjoined
  have hchain := (same_run_iff_chain_in_text catalog {} g).2 0 2 l r (by decide) hl hr
  exact ⟨hl, hr, (hchain.1 hsame).1⟩

/-- An empty group between two conditions, with OR after it. The linter has the conditions in two
runs, while the text joins them by AND. -/
theorem chain_in_text_across_runs :
    let l : Condition := ⟨"a", "x", .greaterThan, .text "10", none⟩
    let r : Condition := ⟨"b", "x", .lessThan, .text "5", none⟩
    let g : Group := ⟨⟨"g", .and, false, none⟩,
      [.condition l, .group ⟨"e", .and, false, some .or⟩ [], .condition r]⟩
    let catalog : Catalog := ⟨[⟨"x", "X", .number, none, [], none⟩]⟩
    g.condition? 0 = some l ∧ g.condition? 2 = some r ∧
      Sql.compile g catalog {} = "x > 10 AND x < 5" ∧ ChainInText catalog {} g 0 2 ∧
        ¬ SameRun g 0 2 := by
  intro l r g catalog
  have hl : g.condition? 0 = some l := rfl
  have hr : g.condition? 2 = some r := rfl
  refine ⟨hl, hr, by decide +kernel, ?_, ?_⟩
  · rw [chainInText_iff (by decide) hr]
    decide
  · rw [sameRun_iff_joined (by decide) hl hr]
    decide

end Criteria
