import Criteria.Proofs.Lint.Order
import Criteria.Proofs.Lint.Signed

namespace Criteria

namespace Lint

variable {rules : List Rule} {disabled : List String} {catalog : Catalog} {t : Tree} {f : Finding}
  {o : Options}

theorem flatMap_filter_name {k : Rule → List Finding} (p : String → Bool)
    (h : ∀ r ∈ rules, ∀ f ∈ k r, f.rule = r.name) :
    (rules.filter (p ·.name)).flatMap k = (rules.flatMap k).filter (p ·.rule) := by
  induction rules with
  | nil => rfl
  | cons r rules ih =>
    rw [List.forall_mem_cons] at h
    obtain ⟨hr, hrules⟩ := h
    rw [List.flatMap_cons, List.filter_append, ← ih hrules, List.filter_cons]
    cases hp : p r.name with
    | true =>
      have hall : (k r).filter (p ·.rule) = k r :=
        List.filter_eq_self.2 fun f hf => by rw [hr f hf, hp]
      rw [if_pos rfl, List.flatMap_cons, hall]
    | false =>
      have hnone : (k r).filter (p ·.rule) = [] :=
        List.filter_eq_nil_iff.2 fun f hf => by simp [hr f hf, hp]
      rw [if_neg Bool.false_ne_true, hnone, List.nil_append]

theorem rules_enabled_nil (rules : List Rule) :
    rules.filter (·.name ∉ ([] : List String)) = rules :=
  List.filter_eq_self.2 fun _ _ => by simp

/-- At every node, a condition on an unknown field among them. -/
theorem findingsAt_disabled (hr : rules ⊆ standardRules) (path : List String) (n : Node) :
    findingsAt ⟨rules, disabled⟩ catalog path n =
      (findingsAt ⟨rules, []⟩ catalog path n).filter (·.rule ∉ disabled) := by
  cases n with
  | group h children =>
    rw [findingsAt, findingsAt, rules_enabled_nil]
    exact flatMap_filter_name (fun name => decide (name ∉ disabled)) fun r hmem f hf =>
      ((signs_of_mem (hr hmem)).group _ _ f hf).1
  | condition c =>
    rw [findingsAt, findingsAt]
    cases catalog.get? c.field with
    | some f =>
      dsimp only
      rw [rules_enabled_nil]
      exact flatMap_filter_name (fun name => decide (name ∉ disabled)) fun r hmem g hg =>
        ((signs_of_mem (hr hmem)).condition _ _ _ g hg).1
    | none => by_cases hu : "unknown-field" ∈ disabled <;> simp [hu]

theorem tree_disabled (hr : rules ⊆ standardRules) (t : Tree) (catalog : Catalog)
    (disabled : List String) : tree t catalog ⟨rules, disabled⟩ =
      (tree t catalog ⟨rules, []⟩).filter (·.rule ∉ disabled) := by
  rw [tree_eq_flatMap, tree_eq_flatMap, List.filter_flatMap]
  exact List.flatMap_congr fun n _ => findingsAt_disabled hr n.path n.node

theorem concerns_of_mem_tree (ho : o.rules ⊆ standardRules) (hf : f ∈ tree t catalog o) :
    ∃ n : Occurrence, n.whole = t.toNode ∧ Concerns o catalog f n := by
  rw [tree_eq_flatMap, List.mem_flatMap] at hf
  obtain ⟨n, hn, hf⟩ := hf
  rw [← Node.mem_occurrences.1 hn]
  exact concerns_of_mem ho hf

end Lint

open Lint

/-- To leave rules out is to leave out their findings: with standard rules in any order, as often as
one likes, the findings of a run without some of them are those of the run with all of them that
are not under their names, in the same order. The rule on unknown fields is no exception: a
condition on an unknown field has no finding but that one, and none when it is left out. -/
theorem leaving_out_filters (rules : List Rule) (disabled : List String) (t : Tree)
    (catalog : Catalog) (h : rules ⊆ standardRules) :
    Lint.tree t catalog ⟨rules, disabled⟩ =
        (Lint.tree t catalog ⟨rules, []⟩).filter (·.rule ∉ disabled) ∧
      ∀ f ∈ Lint.tree t catalog ⟨rules, disabled⟩,
        ∃ n : Occurrence, n.whole = t.toNode ∧ Concerns ⟨rules, disabled⟩ catalog f n :=
  ⟨tree_disabled h t catalog disabled, fun _ hf => concerns_of_mem_tree h hf⟩

/-- One rule comes twice and after a later one; a condition on an unknown field has a value that
would be missing for a known one. -/
theorem leaving_out_filters_repeated :
    let t : Tree := ⟨⟨"r", .and, false, none⟩,
      [.condition ⟨"a", "x", .equals, .null, none⟩, .condition ⟨"b", "y", .equals, .null, none⟩,
        .group ⟨"g", .or, false, none⟩ []]⟩
    let catalog : Catalog := ⟨[⟨"x", "X", .number, none, [], none⟩]⟩
    let rules : List Rule := [groupFilled, valuePresent, groupFilled]
    let disabled : List String := ["unknown-field", "missing-value"]
    rules ⊆ standardRules ∧
      (Lint.tree t catalog ⟨rules, []⟩).map (·.id) =
        ["missing-value:a", "unknown-field:b", "empty-group:g", "empty-group:g"] ∧
      (Lint.tree t catalog ⟨rules, disabled⟩).map (·.id) = ["empty-group:g", "empty-group:g"] ∧
      Lint.tree t catalog ⟨rules, disabled⟩ =
        (Lint.tree t catalog ⟨rules, []⟩).filter (·.rule ∉ disabled) := by
  intro t catalog rules disabled
  have h : rules ⊆ standardRules := by simp [rules, standardRules]
  exact ⟨h, by decide +kernel, by decide +kernel,
    (leaving_out_filters rules disabled t catalog h).1⟩

end Criteria
