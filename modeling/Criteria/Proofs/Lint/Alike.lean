import Criteria.Proofs.Lint.Order
import Criteria.Proofs.Rendering.Alike

namespace Criteria

namespace Lint

/-- Findings that say the same of nodes that stand for one another. The ids of findings are made
of one start and of ids of nodes. -/
structure Corresponds (R : String → String → Prop) (a b : Node) (f g : Finding) : Prop where
  level : f.level = g.level
  rule : f.rule = g.rule
  message : f.message = g.message
  suggestion : f.suggestion = g.suggestion
  nodeId : R f.nodeId g.nodeId
  path : List.Forall₂ R f.path g.path
  position : ∃ n m : Occurrence, n.whole = a ∧ m.whole = b ∧ n.position = m.position ∧
    f.path = n.path ∧ f.nodeId = n.node.id ∧ g.path = m.path ∧ g.nodeId = m.node.id
  id : ∃ start is js, List.Forall₂ R is js ∧
    f.id = ":".intercalate (start :: is ++ [f.nodeId]) ∧
    g.id = ":".intercalate (start :: js ++ [g.nodeId])

variable {R : String → String → Prop} {n m : Occurrence} {catalog : Catalog} {o : Options}
  {c d l r l' r' : Condition} {h k : Header} {ns ms : List Node}

theorem corresponds_finding (hnm : n.Alike R m) (r : Report) :
    Corresponds R n.whole m.whole (r.finding n.path) (r.finding m.path) where
  level := rfl
  rule := rfl
  message := rfl
  suggestion := rfl
  nodeId := by
    simp only [Report.finding, getLastD_path]
    exact hnm.node.id_rel
  path := hnm.path
  position := ⟨n, m, rfl, rfl, hnm.position, rfl, getLastD_path n, rfl, getLastD_path m⟩
  id := ⟨r.start, [], [], .nil, rfl, rfl⟩

theorem forall₂_reports {fs : List String → List Finding} (hnm : n.Alike R m)
    (hfs : AreReports fs) : List.Forall₂ (Corresponds R n.whole m.whole) (fs n.path) (fs m.path) := by
  obtain ⟨rs, hrs⟩ := hfs
  rw [hrs, hrs, List.forall₂_map_left_iff, List.forall₂_map_right_iff, List.forall₂_same]
  exact fun r _ => corresponds_finding hnm r

theorem Irreconcilable.congr (h : Irreconcilable catalog l r) (hl : l.test = l'.test)
    (hr : r.test = r'.test) : Irreconcilable catalog l' r' := by
  obtain ⟨hlf, hlop, hlv⟩ := Condition.test_eq_iff.1 hl
  obtain ⟨hrf, hrop, hrv⟩ := Condition.test_eq_iff.1 hr
  obtain ⟨hfield, hnumber, s, t, hs, ht, hst⟩ := h
  rw [accepts_iff, hlop, hlv, ← accepts_iff] at hs
  rw [accepts_iff, hrop, hrv, ← accepts_iff] at ht
  exact ⟨hlf ▸ hrf ▸ hfield, hlf ▸ hnumber, s, t, hs, ht, hst⟩

theorem conflict?_rel {P : Finding → Finding → Prop} {path path' : List String}
    (hl : l.test = l'.test) (hr : r.test = r'.test)
    (h : P (contradiction ⟨catalog, path⟩ l r) (contradiction ⟨catalog, path'⟩ l' r')) :
    Option.Rel P (conflict? ⟨catalog, path⟩ l r) (conflict? ⟨catalog, path'⟩ l' r') := by
  have hnone {path : List String} {l r : Condition} (h : ¬ Irreconcilable catalog l r) :
      conflict? ⟨catalog, path⟩ l r = none :=
    Option.eq_none_iff_forall_ne_some.2 fun f hf => h (conflict?_eq_some.1 hf).1
  by_cases hlr : Irreconcilable catalog l r
  · rw [conflict?_eq_some.2 ⟨hlr, rfl⟩, conflict?_eq_some.2 ⟨hlr.congr hl hr, rfl⟩]
    exact .some h
  · rw [hnone hlr, hnone fun hlr' => hlr (hlr'.congr hl.symm hr.symm)]
    exact .none

theorem connector?_alike (hc : h.combinator = k.combinator) (hs : Node.AllAlike R ns ms) (i : Nat) :
    Group.connector? ⟨h, ns⟩ i = Group.connector? ⟨k, ms⟩ i := by
  have hof (h : Header) (ns : List Node) :
      Group.combinatorOf ⟨h, ns⟩ = (·.getD h.combinator) ∘ Node.edge := rfl
  simp only [Group.connector?, ← hs.length_eq]
  split
  · next hi => rw [hof, hof, ← Option.map_map, ← Option.map_map, hs.edge_eq hi, hc]
  · rfl

theorem joined_alike (hc : h.combinator = k.combinator) (hs : Node.AllAlike R ns ms) (i j : Nat) :
    Group.Joined ⟨h, ns⟩ i j ↔ Group.Joined ⟨k, ms⟩ i j := by
  simp only [Group.Joined, connector?_alike hc hs]

theorem condition?_rel (h k : Header) (hs : Node.AllAlike R ns ms) (i : Nat) :
    Option.Rel (fun c d => R c.id d.id ∧ c.test = d.test) (Group.condition? ⟨h, ns⟩ i)
      (Group.condition? ⟨k, ms⟩ i) := by
  have hrel := hs.getElem? i
  simp only [Group.condition?]
  generalize ns[i]? = x, ms[i]? = y at hrel
  cases hrel with
  | none => exact .none
  | some hnm =>
    cases hnm with
    | condition hid htest => exact .some ⟨hid, htest⟩
    | group _ _ _ _ => exact .none

theorem message_contradiction {path path' : List String} (hl : l.test = l'.test)
    (hr : r.test = r'.test) : (contradiction ⟨catalog, path⟩ l r).message =
      (contradiction ⟨catalog, path'⟩ l' r').message := by
  obtain ⟨_, _, _, _, _⟩ := l
  obtain ⟨_, _, _, _, _⟩ := r
  cases hl
  cases hr
  rfl

theorem corresponds_contradiction (hnm : n.Alike R m) (hn : n.node = .group h ns)
    (hm : m.node = .group k ms) {j : Nat} (hr : ns[j]? = some (.condition r))
    (hr' : ms[j]? = some (.condition r')) (hl : R l.id l'.id ∧ l.test = l'.test)
    (hrr : R r.id r'.id ∧ r.test = r'.test) :
    Corresponds R n.whole m.whole (contradiction ⟨catalog, n.path⟩ l r)
      (contradiction ⟨catalog, m.path⟩ l' r') where
  level := rfl
  rule := rfl
  message := message_contradiction hl.2 hrr.2
  suggestion := rfl
  nodeId := by
    rw [nodeId_contradiction, nodeId_contradiction]
    exact hrr.1
  path := List.rel_append hnm.path (.cons hrr.1 .nil)
  position := by
    obtain ⟨n', hwhole, hnode, hpath, hpos⟩ := Node.exists_child rfl hn hr
    obtain ⟨m', hwhole', hnode', hpath', hpos'⟩ := Node.exists_child rfl hm hr'
    refine ⟨n', m', hwhole, hwhole', ?_, hpath.symm, ?_, hpath'.symm, ?_⟩
    · rw [hpos, hpos', hnm.position]
    · rw [nodeId_contradiction, hnode, Node.id]
    · rw [nodeId_contradiction, hnode', Node.id]
  id := by
    refine ⟨"contradiction", [l.id], [l'.id], .cons hl.1 .nil, ?_, ?_⟩
    · rw [nodeId_contradiction]
      exact id_contradiction _ l r
    · rw [nodeId_contradiction]
      exact id_contradiction _ l' r'

theorem conflictAt?_rel (hnm : n.Alike R m) (hn : n.node = .group h ns)
    (hm : m.node = .group k ms) (hc : h.combinator = k.combinator) (hs : Node.AllAlike R ns ms)
    (p : Nat × Nat) : Option.Rel (Corresponds R n.whole m.whole)
      (conflictAt? ⟨catalog, n.path⟩ ⟨h, ns⟩ p) (conflictAt? ⟨catalog, m.path⟩ ⟨k, ms⟩ p) := by
  simp only [conflictAt?, joined_alike hc hs]
  -- a chain of AND ends before the second child, so it does not use the edge of a last child
  split
  · have hl := condition?_rel h k hs p.1
    have hr := condition?_rel h k hs p.2
    generalize Group.condition? ⟨h, ns⟩ p.1 = x, Group.condition? ⟨k, ms⟩ p.1 = x' at hl
    generalize hy : Group.condition? ⟨h, ns⟩ p.2 = y, hy' : Group.condition? ⟨k, ms⟩ p.2 = y' at hr
    cases hl with
    | none => exact .none
    | some hl =>
      cases hr with
      | none => exact .none
      | some hr =>
        rw [Group.condition?_eq_some] at hy hy'
        exact conflict?_rel hl.2 hr.2 (corresponds_contradiction hnm hn hm hy hy' hl hr)
  · exact .none

theorem forall₂_group {rule : Rule} (hrule : rule ∈ standardRules) (hnm : n.Alike R m)
    (hn : n.node = .group h ns) (hm : m.node = .group k ms) (hc : h.combinator = k.combinator)
    (hs : Node.AllAlike R ns ms) : List.Forall₂ (Corresponds R n.whole m.whole)
      (rule.group ⟨catalog, n.path⟩ ⟨h, ns⟩) (rule.group ⟨catalog, m.path⟩ ⟨k, ms⟩) := by
  rcases group_of_mem hrule with rfl | rfl | hnil
  · rw [satisfiable_eq, satisfiable_eq, ← hs.length_eq]
    refine List.rel_filterMap (R := Eq) ?_ (List.forall₂_same.2 fun _ _ => rfl)
    rintro p _ rfl
    exact conflictAt?_rel hnm hn hm hc hs p
  · have hempty : Group.isEmpty ⟨h, ns⟩ = Group.isEmpty ⟨k, ms⟩ := by cases hs <;> rfl
    have hsame : groupFilled.group ⟨catalog, m.path⟩ ⟨h, ns⟩ =
        groupFilled.group ⟨catalog, m.path⟩ ⟨k, ms⟩ := by
      simp only [groupFilled, Rule.onGroups, hempty]
    rw [← hsame]
    exact forall₂_reports hnm (areReports_groupFilled catalog ⟨h, ns⟩)
  · rw [hnil, hnil]
    exact .nil

theorem forall₂_findingsAt (ho : o.rules ⊆ standardRules) (hnm : n.Alike R m) :
    List.Forall₂ (Corresponds R n.whole m.whole) (findingsAt o catalog n.path n.node)
      (findingsAt o catalog m.path m.node) := by
  have hnode := hnm.node
  generalize hn : n.node = a, hm : m.node = b at hnode
  cases hnode with
  | @condition c d _ htest =>
    rw [← hn, ← hm, findingsAt_condition hn, findingsAt_condition hm,
      ← conditionFindings_congr ho htest]
    exact forall₂_reports hnm (areReports_conditionFindings ho catalog c)
  | group _ hc _ hs =>
    have hrules : List.Forall₂ (fun a b => a = b ∧ a ∈ standardRules)
        (o.rules.filter (·.name ∉ o.disabled)) (o.rules.filter (·.name ∉ o.disabled)) :=
      List.forall₂_same.2 fun r hr => ⟨rfl, ho (List.mem_of_mem_filter hr)⟩
    refine List.rel_flatMap hrules ?_
    rintro rule _ ⟨rfl, hrule⟩
    exact forall₂_group hrule hnm hn hm hc hs

/-- What the linter finds in trees that are alike corresponds, one finding after another. -/
theorem forall₂_tree (ho : o.rules ⊆ standardRules) {t u : Tree}
    (h : Node.Alike R t.toNode u.toNode) : List.Forall₂ (Corresponds R t.toNode u.toNode)
      (tree t catalog o) (tree u catalog o) := by
  have hnodes := Node.forall₂_occurrences t.toNode h
  -- where the nodes occur is known of the members of the two lists, not from the relation
  rw [List.forall₂_iff_zip] at hnodes
  have hwhole : List.Forall₂ (fun n m => n.whole = t.toNode ∧ m.whole = u.toNode ∧ n.Alike R m)
      t.toNode.occurrences u.toNode.occurrences := by
    refine List.forall₂_iff_zip.2 ⟨hnodes.1, fun hzip => ?_⟩
    obtain ⟨hn, hm⟩ := List.of_mem_zip hzip
    exact ⟨Node.mem_occurrences.1 hn, Node.mem_occurrences.1 hm, hnodes.2 hzip⟩
  rw [tree_eq_flatMap, tree_eq_flatMap]
  refine List.rel_flatMap hwhole ?_
  rintro n m ⟨hn, hm, hnm⟩
  rw [← hn, ← hm]
  exact forall₂_findingsAt ho hnm

end Lint

open Lint

/-- Ids and edges that lead nowhere mean nothing. Two trees that differ in nothing else have the
same outputs in all formats, and with standard rules, the findings on the one are those on the
other, one after another, about the nodes at the same positions. No finding gets lost over ids:
violations of constraints that are told apart by the ids of their findings, in which there is the id
of the node, are those told apart by their keys. -/
theorem ids_and_last_edges_mean_nothing (R : String → String → Prop) (t u : Tree)
    (catalog : Catalog) (e : Export.Options) (o : Lint.Options)
    (h : Node.Alike R t.toNode u.toNode) (ho : o.rules ⊆ standardRules) :
    Readable.compile t catalog e.readable = Readable.compile u catalog e.readable ∧
      Sql.compile t catalog e.sql = Sql.compile u catalog e.sql ∧
      Mongo.compile t catalog e.mongo = Mongo.compile u catalog e.mongo ∧
      List.Forall₂ (Corresponds R t.toNode u.toNode) (Lint.tree t catalog o)
        (Lint.tree u catalog o) ∧
      ∀ path f cs v, (allViolations f cs v).map (Violation.finding path cs) =
        constraintFindings path f cs v :=
  ⟨Readable.compile_alike h catalog e.readable, Sql.compile_alike h catalog e.sql,
    Mongo.compile_alike h catalog e.mongo, forall₂_tree ho h, map_finding_allViolations⟩

/-- Two conditions that contradict each other around a group, and the same tree with longer ids and
with other edges after last children and the root. -/
theorem ids_and_last_edges_mean_nothing_renamed :
    let tree (name : String → String) (edge : Option Combinator) : Tree :=
      ⟨⟨name "r", .and, true, edge⟩,
        [.condition ⟨name "a", "x", .greaterThan, .text "10", none⟩,
          .group ⟨name "g", .or, false, some .and⟩
            [.condition ⟨name "c", "y", .isEmpty, .null, edge⟩],
          .condition ⟨name "b", "x", .lessThan, .text "5", edge⟩]⟩
    let rename (id : String) : String := "copy of " ++ id
    let t : Tree := tree id none
    let u : Tree := tree rename (some .or)
    let catalog : Catalog := ⟨[⟨"x", "X", .number, none, [], none⟩]⟩
    let R (a b : String) : Prop := rename a = b
    Node.Alike R t.toNode u.toNode ∧ Options.standard.rules ⊆ standardRules ∧
      (Lint.tree u catalog .standard).map (·.path) =
        [["copy of r", "copy of b"], ["copy of r", "copy of g", "copy of c"]] ∧
      Sql.compile t catalog {} = Sql.compile u catalog {} ∧
      List.Forall₂ (Corresponds R t.toNode u.toNode) (Lint.tree t catalog .standard)
        (Lint.tree u catalog .standard) := by
  intro tree rename t u catalog R
  have h : Node.Alike R t.toNode u.toNode :=
    .group rfl rfl rfl (.cons (.condition rfl rfl) rfl
      (.cons (.group rfl rfl rfl (.last (.condition rfl rfl))) rfl (.last (.condition rfl rfl))))
  have ho : Options.standard.rules ⊆ standardRules := List.Subset.refl _
  obtain ⟨-, hsql, -, hfindings, -⟩ :=
    ids_and_last_edges_mean_nothing R t u catalog {} .standard h ho
  exact ⟨h, ho, by decide +kernel, hsql, hfindings⟩

end Criteria
