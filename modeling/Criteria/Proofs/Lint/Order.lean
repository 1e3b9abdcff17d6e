import Criteria.Proofs.Lint.Report
import Criteria.Proofs.Tree.Lookup
import Criteria.Proofs.Tree.Order

namespace Criteria

namespace Lint

/-- The findings at a node, given the path to it. Rules that are left out have no say; a condition
on an unknown field is reported as such and looked at no further. -/
def findingsAt (o : Options) (catalog : Catalog) (path : List String) : Node → List Finding
  | .group h children =>
    (o.rules.filter (·.name ∉ o.disabled)).flatMap (·.group ⟨catalog, path⟩ ⟨h, children⟩)
  | .condition c =>
    match catalog.get? c.field with
    | some f => (o.rules.filter (·.name ∉ o.disabled)).flatMap (·.condition ⟨catalog, path⟩ f c)
    | none =>
      if "unknown-field" ∈ o.disabled then []
      else
        [{ id := "unknown-field:" ++ c.id
           level := .error
           rule := "unknown-field"
           message := "Unknown field '" ++ c.field ++ "'"
           nodeId := c.id
           path := path
           suggestion := some "Pick a field from the catalog" }]

variable {o : Options} {catalog : Catalog} {f : Finding} {t : Tree}

theorem enabled_eq (o : Options) : o.enabled = o.rules.filter (·.name ∉ o.disabled) := by
  refine List.filter_congr fun r _ => ?_
  simp only [Options.enables, List.contains_eq_mem, decide_not]

theorem groupFindings_eq (o : Options) (catalog : Catalog) (path : List String) (h : Header)
    (children : List Node) : groupFindings o ⟨catalog, path⟩ ⟨h, children⟩ =
      findingsAt o catalog path (.group h children) := by
  rw [groupFindings, findingsAt, enabled_eq]

theorem conditionFindings_eq (o : Options) (catalog : Catalog) (path : List String)
    (c : Condition) : conditionFindings o ⟨catalog, path ++ [c.id]⟩ c =
      findingsAt o catalog (path ++ [c.id]) (.condition c) := by
  rw [conditionFindings, findingsAt]
  cases catalog.get? c.field with
  | some f => rw [enabled_eq]
  | none =>
    by_cases h : "unknown-field" ∈ o.disabled
    · simp [Options.enables, unknownFieldRule, h]
    · simp [Options.enables, unknownFieldRule, h, Finding.error, Finding.about, Finding.suggest]

mutual

theorem node_eq_flatMap (path : List String) (n : Node) : node o catalog path n =
    n.occurrences.flatMap fun m => findingsAt o catalog (path ++ m.path) m.node := by
  cases n with
  | condition c =>
    rw [node, conditionFindings_eq]
    exact (List.flatMap_singleton ..).symm
  | group h children =>
    rw [node, groupFindings_eq, nodes_eq_flatMap path h [] children, Node.occurrences,
      List.flatMap_cons]
    rfl

theorem nodes_eq_flatMap (path : List String) (h : Header) (before ns : List Node) :
    nodes o catalog (path ++ [h.id]) ns = (Node.occurrencesAfter h before ns).flatMap fun m =>
      findingsAt o catalog (path ++ m.path) m.node := by
  cases ns with
  | nil => rfl
  | cons n ns =>
    rw [nodes, node_eq_flatMap (path ++ [h.id]) n, nodes_eq_flatMap path h (before ++ [n]) ns,
      Node.occurrencesAfter, List.flatMap_append, List.flatMap_map]
    simp only [Occurrence.path_enter, List.append_assoc, List.singleton_append]
    rfl

end

/-- The findings on a tree are those at its nodes, one node after another. -/
theorem tree_eq_flatMap (t : Tree) (catalog : Catalog) (o : Options) : tree t catalog o =
    t.toNode.occurrences.flatMap fun n => findingsAt o catalog n.path n.node :=
  node_eq_flatMap [] t.toNode

/-- Whether a finding is about an occurrence of a node. If that is a condition on an unknown field,
the finding says just this. -/
structure Concerns (o : Options) (catalog : Catalog) (f : Finding) (n : Occurrence) : Prop where
  path : f.path = n.path
  nodeId : f.nodeId = n.node.id
  unknown (c : Condition) (hn : n.node = .condition c) (hc : catalog.get? c.field = none) :
    f.rule = unknownFieldRule ∧ unknownFieldRule ∉ o.disabled

theorem getLastD_path (n : Occurrence) : n.path.getLastD "" = n.node.id := by
  simp [Occurrence.path]

theorem concerns_of_group {r : Rule} {n : Occurrence} {h : Header} {children : List Node}
    (hr : r ∈ standardRules) (hn : n.node = .group h children)
    (hf : f ∈ r.group ⟨catalog, n.path⟩ ⟨h, children⟩) :
    ∃ m : Occurrence, m.whole = n.whole ∧ Concerns o catalog f m := by
  rcases group_of_mem hr with rfl | rfl | hnil
  · rw [satisfiable_eq, List.mem_filterMap] at hf
    obtain ⟨p, -, hp⟩ := hf
    obtain ⟨-, l, c, -, hc, hlc, rfl⟩ := conflictAt?_eq_some.1 hp
    obtain ⟨m, hm, hnode, hpath, -⟩ := Node.exists_child rfl hn (Group.condition?_eq_some.1 hc)
    refine ⟨m, hm, hpath.symm, by rw [nodeId_contradiction, hnode, Node.id], ?_⟩
    -- the second of two conditions that contradict each other is on the field of the first one
    intro d hd hnone
    obtain ⟨field, hknown, -⟩ := hlc.number
    cases hnode.symm.trans hd
    rw [← hlc.field, hknown] at hnone
    cases hnone
  · obtain ⟨hpath, hid⟩ := path_of_mem_reports (areReports_groupFilled catalog ⟨h, children⟩) hf
    refine ⟨n, rfl, hpath, hid.trans (getLastD_path n), fun c hc => ?_⟩
    cases hn.symm.trans hc
  · rw [hnil] at hf
    cases hf

theorem findingsAt_condition {n : Occurrence} {c : Condition} (hn : n.node = .condition c) :
    findingsAt o catalog n.path n.node = conditionFindings o ⟨catalog, n.path⟩ c := by
  have hpath : n.path = n.around.map (·.header.id) ++ [c.id] := by
    rw [Occurrence.path, hn]
    rfl
  rw [hn, hpath, conditionFindings_eq]

theorem concerns_of_condition (ho : o.rules ⊆ standardRules) {n : Occurrence} {c : Condition}
    (hn : n.node = .condition c) (hf : f ∈ conditionFindings o ⟨catalog, n.path⟩ c) :
    Concerns o catalog f n := by
  obtain ⟨hpath, hid⟩ := path_of_mem_reports (areReports_conditionFindings ho catalog c) hf
  refine ⟨hpath, hid.trans (getLastD_path n), fun d hd hnone => ?_⟩
  cases hn.symm.trans hd
  simp only [conditionFindings, hnone] at hf
  split at hf
  · next henabled =>
    rw [Options.enables, Bool.not_eq_true', List.contains_eq_mem, decide_eq_false_iff_not]
      at henabled
    exact ⟨List.mem_singleton.1 hf ▸ rfl, henabled⟩
  · cases hf

theorem concerns_of_mem (ho : o.rules ⊆ standardRules) {n : Occurrence}
    (hf : f ∈ findingsAt o catalog n.path n.node) :
    ∃ m : Occurrence, m.whole = n.whole ∧ Concerns o catalog f m := by
  cases hn : n.node with
  | group h children =>
    rw [hn, findingsAt, List.mem_flatMap] at hf
    obtain ⟨r, hr, hf⟩ := hf
    exact concerns_of_group (ho (List.mem_of_mem_filter hr)) hn hf
  | condition c =>
    rw [findingsAt_condition hn] at hf
    exact ⟨n, rfl, concerns_of_condition ho hn hf⟩

theorem path?_of_concerns (hd : t.ids.Nodup) {n : Occurrence} (hn : n.whole = t.toNode)
    (h : Concerns o catalog f n) : t.path? f.nodeId = some f.path := by
  rw [h.path, h.nodeId, Group.path?, ← hn]
  rw [Group.ids, ← hn] at hd
  exact Node.path?_within (Node.not_mem_idsBefore hd)

end Lint

open Lint

/-- The linter goes through all nodes of a tree in document order and gives the findings at each of
them. With the standard rules, the path of a finding consists of the ids from the root down to the
node that the finding is about, so it is what a search for that node finds if ids are distinct. -/
theorem findings_in_document_order (t : Tree) (catalog : Catalog) (o : Options) :
    ∃ ns : List Occurrence, (∀ n, n ∈ ns ↔ n.whole = t.toNode) ∧
      ns.Pairwise (fun n m => n.position < m.position) ∧
      Lint.tree t catalog o = ns.flatMap (fun n => findingsAt o catalog n.path n.node) ∧
      (o.rules ⊆ standardRules → ∀ f ∈ Lint.tree t catalog o,
        (∃ n ∈ ns, f.path = n.path ∧ f.nodeId = n.node.id) ∧
        (t.ids.Nodup → t.path? f.nodeId = some f.path)) := by
  refine ⟨t.toNode.occurrences, fun n => Node.mem_occurrences, Node.pairwise_occurrences _,
    tree_eq_flatMap t catalog o, fun ho f hf => ?_⟩
  rw [tree_eq_flatMap, List.mem_flatMap] at hf
  obtain ⟨n, hn, hf⟩ := hf
  obtain ⟨m, hm, hconcerns⟩ := concerns_of_mem ho hf
  rw [Node.mem_occurrences.1 hn] at hm
  exact ⟨⟨m, Node.mem_occurrences.2 hm, hconcerns.path, hconcerns.nodeId⟩,
    fun hd => path?_of_concerns hd hm hconcerns⟩

/-- Two conditions of an inner group contradict each other, which is reported on the second one; a
condition on an unknown field follows. -/
theorem findings_in_document_order_nested :
    let l : Condition := ⟨"a", "x", .greaterThan, .text "10", none⟩
    let r : Condition := ⟨"b", "x", .lessThan, .text "5", none⟩
    let c : Condition := ⟨"c", "y", .isEmpty, .null, none⟩
    let g : Group := ⟨⟨"g", .and, false, none⟩, [.condition l, .condition r]⟩
    let t : Tree := ⟨⟨"r", .or, false, none⟩, [g.toNode, .condition c]⟩
    let catalog : Catalog := ⟨[⟨"x", "X", .number, none, [], none⟩]⟩
    Options.standard.rules ⊆ standardRules ∧ t.ids.Nodup ∧
      (Lint.tree t catalog .standard).map (·.path) = [["r", "g", "b"], ["r", "c"]] ∧
      ∀ f ∈ Lint.tree t catalog .standard, t.path? f.nodeId = some f.path := by
  intro l r c g t catalog
  have ho : Options.standard.rules ⊆ standardRules := List.Subset.refl _
  have hd : t.ids.Nodup := by decide
  obtain ⟨_, -, -, -, hpaths⟩ := findings_in_document_order t catalog .standard
  exact ⟨ho, hd, by decide +kernel, fun f hf => (hpaths ho f hf).2 hd⟩

end Criteria
