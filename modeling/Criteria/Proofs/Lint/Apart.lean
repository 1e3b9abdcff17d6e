import Criteria.Proofs.Lint.Keys
import Criteria.Proofs.Lint.Order
import Criteria.Proofs.Lint.Signed
import Criteria.Proofs.Tree.Position

namespace Criteria

namespace Lint

variable {r s : Rule} {t : Tree} {catalog : Catalog} {n m : Occurrence} {x y : Finding}

/-- What a rule finds at a node. -/
def Rule.findings (r : Rule) (catalog : Catalog) (n : Occurrence) : List Finding :=
  match n.node with
  | .group h children => r.group ⟨catalog, n.path⟩ ⟨h, children⟩
  | .condition c =>
    match catalog.get? c.field with
    | some f => r.condition ⟨catalog, n.path⟩ f c
    | none => []

theorem mem_findings_of_conditions (h : ∀ ctx g, r.group ctx g = []) :
    x ∈ r.findings catalog n ↔ ∃ f c, n.node = .condition c ∧ catalog.get? c.field = some f ∧
      x ∈ r.condition ⟨catalog, n.path⟩ f c := by
  rw [Rule.findings]
  cases n.node with
  | group header children => simp [h]
  | condition c => cases hf : catalog.get? c.field <;> simp [hf]

theorem mem_findings_of_groups (h : ∀ ctx f c, r.condition ctx f c = []) :
    x ∈ r.findings catalog n ↔
      ∃ g : Group, n.node = g.toNode ∧ x ∈ r.group ⟨catalog, n.path⟩ g := by
  rw [Rule.findings]
  cases n.node with
  | group header children =>
    constructor
    · exact fun hx => ⟨⟨header, children⟩, rfl, hx⟩
    · rintro ⟨⟨k, ns⟩, hg, hx⟩
      cases hg
      exact hx
  | condition c =>
    have hnode (g : Group) : Node.condition c ≠ g.toNode := nofun
    cases hf : catalog.get? c.field <;> simp [h, hnode, hf]

theorem findingsAt_standard (catalog : Catalog) (n : Occurrence) :
    findingsAt .standard catalog n.path n.node =
      findingsAt ⟨[], []⟩ catalog n.path n.node
        ++ standardRules.flatMap (·.findings catalog n) := by
  simp only [Rule.findings]
  cases n.node with
  | group h children =>
    rw [findingsAt, findingsAt]
    rfl
  | condition c =>
    cases hc : catalog.get? c.field <;> simp only [findingsAt, hc] <;> rfl

theorem mem_tree : x ∈ tree t catalog .standard ↔ ∃ n : Occurrence, n.whole = t.toNode ∧
    (x ∈ findingsAt ⟨[], []⟩ catalog n.path n.node ∨
      ∃ r ∈ standardRules, x ∈ r.findings catalog n) := by
  simp only [tree_eq_flatMap, List.mem_flatMap, Node.mem_occurrences, findingsAt_standard,
    List.mem_append]

theorem signed_of_findings (hr : r ∈ standardRules) (hx : x ∈ r.findings catalog n) :
    x.SignedBy r.name := by
  rw [Rule.findings] at hx
  split at hx
  · exact (signs_of_mem hr).group _ _ x hx
  · split at hx
    · exact (signs_of_mem hr).condition _ _ _ x hx
    · cases hx

theorem of_mem_findingsAt_nil (hx : x ∈ findingsAt ⟨[], []⟩ catalog n.path n.node) :
    x.nodeId = n.node.id ∧ x.id = unknownFieldRule ++ ":" ++ x.nodeId := by
  cases hn : n.node with
  | group h children =>
    rw [hn] at hx
    cases hx
  | condition c =>
    rw [hn, findingsAt] at hx
    cases hc : catalog.get? c.field with
    | some f =>
      rw [hc] at hx
      cases hx
    | none =>
      rw [hc] at hx
      obtain rfl := List.mem_singleton.1 hx
      exact ⟨rfl, rfl⟩

theorem colon_not_mem_name (hr : r ∈ standardRules) : ':' ∉ r.name.toList := by
  have hnames : ∀ name ∈ standardRules.map (·.name), ':' ∉ name.toList := by decide
  exact hnames _ (List.mem_map_of_mem hr)

theorem name_ne_unknown (hr : r ∈ standardRules) : r.name ≠ unknownFieldRule := by
  have hnames : ∀ name ∈ standardRules.map (·.name), name ≠ unknownFieldRule := by decide
  exact hnames _ (List.mem_map_of_mem hr)

theorem name_inj (hr : r ∈ standardRules) (hs : s ∈ standardRules) (h : r.name = s.name) :
    r = s := by
  have hnodup : (standardRules.map (·.name)).Nodup := by decide
  exact List.inj_on_of_nodup_map hnodup hr hs h

theorem rule_eq_of_id_eq (hr : r ∈ standardRules) (hs : s ∈ standardRules)
    (hx : x ∈ r.findings catalog n) (hy : y ∈ s.findings catalog m) (hid : x.id = y.id) :
    r = s := by
  obtain ⟨-, rest, hrest⟩ := signed_of_findings hr hx
  obtain ⟨-, rest', hrest'⟩ := signed_of_findings hs hy
  rw [hrest, hrest'] at hid
  exact name_inj hr hs
    (append_colon_inj (colon_not_mem_name hr) (colon_not_mem_name hs) hid).1

theorem id_ne_of_unknown (hs : s ∈ standardRules)
    (hx : x ∈ findingsAt ⟨[], []⟩ catalog n.path n.node) (hy : y ∈ s.findings catalog m) :
    x.id ≠ y.id := by
  obtain ⟨-, rest, hrest⟩ := signed_of_findings hs hy
  rw [(of_mem_findingsAt_nil hx).2, hrest]
  intro hid
  exact name_ne_unknown hs
    (append_colon_inj (by decide) (colon_not_mem_name hs) hid).1.symm

/-- Whether findings have different ids if they are about nodes of one id. -/
def Apart (x y : Finding) : Prop := x.nodeId = y.nodeId → x.id ≠ y.id

theorem pairwise_findings_onConditions {name description : String}
    {check : Context → Field → Condition → List Finding}
    (h : ∀ f c, (check ⟨catalog, n.path⟩ f c).Pairwise fun x y => x.id ≠ y.id) :
    ((Rule.onConditions name description check).findings catalog n).Pairwise Apart := by
  rw [Rule.findings]
  split
  · exact .nil
  · split
    · refine List.Pairwise.imp ?_ (h _ _)
      exact fun hid _ => hid
    · exact .nil

theorem pairwise_valueTyped (ctx : Context) (f : Field) (c : Condition) :
    (valueTyped.condition ctx f c).Pairwise fun x y => x.id ≠ y.id := by
  simp only [valueTyped, Rule.onConditions]
  split
  · exact .nil
  · split
    · exact List.pairwise_singleton ..
    · exact List.pairwise_singleton ..
    · exact pairwise_typeFindings ctx f 0 _

theorem pairwise_constraintsObeyed (ctx : Context) (f : Field) (c : Condition) :
    (constraintsObeyed.condition ctx f c).Pairwise fun x y => x.id ≠ y.id := by
  simp only [constraintsObeyed, Rule.onConditions]
  split
  · exact .nil
  · split
    · refine List.pairwise_map.2 ((pairwise_allViolations f _ c.value).imp fun hkey hid => ?_)
      exact hkey (id_finding_inj.1 hid)
    · exact .nil

theorem mem_satisfiable_group {ctx : Context} {g : Group} : x ∈ satisfiable.group ctx g ↔
    ∃ (i j : Nat) (l r : Condition), i < j ∧ g.Joined i j ∧ g.condition? i = some l ∧
      g.condition? j = some r ∧ Irreconcilable ctx.catalog l r ∧ x = contradiction ctx l r := by
  simp only [satisfiable_eq, List.mem_filterMap, Prod.exists, conflictAt?_eq_some,
    mem_pairs List.pairwise_lt_range, List.mem_range]
  constructor
  · rintro ⟨i, j, ⟨-, -, hij⟩, hjoined, l, r, hl, hr, hlr, rfl⟩
    exact ⟨i, j, l, r, hij, hjoined, hl, hr, hlr, rfl⟩
  · rintro ⟨i, j, l, r, hij, hjoined, hl, hr, hlr, rfl⟩
    have hj : j < g.children.length := Group.lt_length_of_condition? hr
    exact ⟨i, j, ⟨hij.trans hj, hj, hij⟩, hjoined, l, r, hl, hr, hlr, rfl⟩

theorem mem_findings_satisfiable : x ∈ satisfiable.findings catalog n ↔
    ∃ (g : Group) (i j : Nat) (l r : Condition), n.node = g.toNode ∧ i < j ∧ g.Joined i j ∧
      g.condition? i = some l ∧ g.condition? j = some r ∧ Irreconcilable catalog l r ∧
      x = contradiction ⟨catalog, n.path⟩ l r := by
  rw [mem_findings_of_groups fun _ _ _ => rfl]
  simp only [mem_satisfiable_group, exists_and_left]

theorem pairwise_satisfiable (hd : t.ids.Nodup) (hw : n.whole = t.toNode) :
    (satisfiable.findings catalog n).Pairwise Apart := by
  rw [Rule.findings]
  split
  · next h children hn =>
    rw [satisfiable_eq, List.pairwise_filterMap]
    refine (pairwise_pairs List.pairwise_lt_range).imp fun {p q} hpq x hx y hy hnode hid => ?_
    obtain ⟨-, l, r, hl, hr, -, rfl⟩ := conflictAt?_eq_some.1 hx
    obtain ⟨-, l', r', hl', hr', -, rfl⟩ := conflictAt?_eq_some.1 hy
    rw [nodeId_contradiction, nodeId_contradiction] at hnode
    rw [id_contradiction_eq, id_contradiction_eq, hnode, String.append_right_inj,
      String.append_left_inj, String.append_left_inj] at hid
    rw [Group.condition?_eq_some] at hl hr hl' hr'
    have hfirst : p.1 = q.1 := (Node.child_inj hd hw hw hn hn hl hl' hid).2
    have hsecond : p.2 = q.2 := (Node.child_inj hd hw hw hn hn hr hr' hnode).2
    rcases hpq with hlt | ⟨-, hlt⟩ <;> omega
  · split
    · exact .nil
    · exact .nil

theorem pairwise_findings (hd : t.ids.Nodup) (hw : n.whole = t.toNode) (hr : r ∈ standardRules) :
    (r.findings catalog n).Pairwise Apart := by
  have hone {p : Prop} [Decidable p] (z : Finding) :
      (if p then [] else [z]).Pairwise fun x y => x.id ≠ y.id := by
    split
    · exact .nil
    · exact List.pairwise_singleton ..
  revert r
  simp only [standardRules, List.forall_mem_cons, List.not_mem_nil, false_implies, implies_true,
    and_true]
  refine ⟨pairwise_findings_onConditions fun _ _ => hone _,
    pairwise_findings_onConditions fun _ _ => hone _,
    pairwise_findings_onConditions (pairwise_valueTyped _),
    pairwise_findings_onConditions (pairwise_constraintsObeyed _), ?_, pairwise_satisfiable hd hw⟩
  rw [Rule.findings]
  split
  · dsimp only [groupFilled, Rule.onGroups]
    split
    · exact List.pairwise_singleton ..
    · exact .nil
  · split
    · exact .nil
    · exact .nil

theorem nodeId_of_findings (hr : r ∈ standardRules) (hne : r ≠ satisfiable)
    (hx : x ∈ r.findings catalog n) : x.nodeId = n.node.id := by
  rw [← getLastD_path n]
  rw [Rule.findings] at hx
  split at hx
  · rcases group_of_mem hr with rfl | rfl | hnil
    · exact absurd rfl hne
    · exact (path_of_mem_reports (areReports_groupFilled catalog _) hx).2
    · rw [hnil] at hx
      cases hx
  · split at hx
    · exact (path_of_mem_reports ((isLocal_of_mem hr).reports catalog _ _) hx).2
    · cases hx

theorem place_inj (hd : t.ids.Nodup) (hn : n.whole = t.toNode) (hm : m.whole = t.toNode)
    (hr : r ∈ standardRules) (hx : x ∈ r.findings catalog n) (hy : y ∈ r.findings catalog m)
    (hnode : x.nodeId = y.nodeId) : n = m := by
  by_cases hrule : r = satisfiable
  · subst hrule
    obtain ⟨g, i, j, l, c, hg, -, -, -, hc, -, rfl⟩ := mem_findings_satisfiable.1 hx
    obtain ⟨g', i', j', l', c', hg', -, -, -, hc', -, rfl⟩ := mem_findings_satisfiable.1 hy
    rw [nodeId_contradiction, nodeId_contradiction] at hnode
    exact (Node.child_inj hd hn hm hg hg' (Group.condition?_eq_some.1 hc)
      (Group.condition?_eq_some.1 hc') hnode).1
  · rw [nodeId_of_findings hr hrule hx, nodeId_of_findings hr hrule hy] at hnode
    exact Node.occurrence_inj hd hn hm hnode

theorem apart_of_position_lt (hd : t.ids.Nodup) (hn : n.whole = t.toNode)
    (hm : m.whole = t.toNode) (hlt : n.position < m.position)
    (hx : x ∈ findingsAt .standard catalog n.path n.node)
    (hy : y ∈ findingsAt .standard catalog m.path m.node) : Apart x y := by
  have hne : n ≠ m := fun h => absurd hlt (h ▸ lt_irrefl _)
  intro hnode hid
  simp only [findingsAt_standard, List.mem_append, List.mem_flatMap] at hx hy
  rcases hx with hx | ⟨r, hr, hx⟩
  · rcases hy with hy | ⟨s, hs, hy⟩
    · rw [(of_mem_findingsAt_nil hx).1, (of_mem_findingsAt_nil hy).1] at hnode
      exact hne (Node.occurrence_inj hd hn hm hnode)
    · exact id_ne_of_unknown hs hx hy hid
  · rcases hy with hy | ⟨s, hs, hy⟩
    · exact id_ne_of_unknown hr hy hx hid.symm
    · obtain rfl := rule_eq_of_id_eq hr hs hx hy hid
      exact hne (place_inj hd hn hm hr hx hy hnode)

theorem pairwise_findingsAt_nil (catalog : Catalog) (n : Occurrence) :
    (findingsAt ⟨[], []⟩ catalog n.path n.node).Pairwise Apart := by
  cases n.node with
  | group h children => exact .nil
  | condition c =>
    rw [findingsAt]
    cases catalog.get? c.field with
    | some f => exact .nil
    | none => exact List.pairwise_singleton ..

/-- With distinct ids of nodes, the findings on one node have different ids. -/
theorem pairwise_tree (hd : t.ids.Nodup) (catalog : Catalog) :
    (tree t catalog .standard).Pairwise Apart := by
  rw [tree_eq_flatMap, List.pairwise_flatMap]
  refine ⟨fun n hn => ?_, ?_⟩
  · rw [findingsAt_standard, List.pairwise_append]
    refine ⟨pairwise_findingsAt_nil catalog n, List.pairwise_flatMap.2 ⟨fun r hr => ?_, ?_⟩,
      fun x hx y hy _ => ?_⟩
    · exact pairwise_findings hd (Node.mem_occurrences.1 hn) hr
    · have hnames : (standardRules.map (·.name)).Pairwise (· ≠ ·) := by decide
      refine (List.pairwise_map.1 hnames).imp_of_mem fun hr hs hne x hx y hy _ hid => ?_
      exact hne (congrArg _ (rule_eq_of_id_eq hr hs hx hy hid))
    · obtain ⟨s, hs, hy⟩ := List.mem_flatMap.1 hy
      exact id_ne_of_unknown hs hx hy
  · refine (Node.pairwise_occurrences t.toNode).imp_of_mem fun hn hm hlt x hx y hy => ?_
    exact apart_of_position_lt hd (Node.mem_occurrences.1 hn) (Node.mem_occurrences.1 hm) hlt hx hy

end Lint

end Criteria
