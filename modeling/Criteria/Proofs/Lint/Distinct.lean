import Criteria.Proofs.Lint.Apart
import Criteria.Proofs.Lint.Valid

namespace Criteria

/-- Whether a condition on a known field has a value that is not of the shape of the operator. -/
def Condition.Misshapen (catalog : Catalog) (c : Condition) : Prop :=
  (∃ f, catalog.get? c.field = some f) ∧ c.operator.isValueless = false ∧
    c.value.isMissing = false ∧ ∀ items, ¬ c.operator.Carries c.value items

/-- Whether the item at an index of the value of a condition is not of the type of the field. -/
def Condition.Mistyped (catalog : Catalog) (c : Condition) (i : Nat) : Prop :=
  ∃ f items v, catalog.get? c.field = some f ∧ c.operator.isValueless = false ∧
    c.value.isMissing = false ∧ c.operator.Carries c.value items ∧ items[i]? = some v ∧
    ¬ f.Admits v

/-- Whether two conditions of a group somewhere in a tree contradict each other, the one before the
other and joined to it by AND. -/
def Group.Conflict (t : Tree) (catalog : Catalog) (l r : Condition) : Prop :=
  ∃ (n : Occurrence) (g : Group) (i j : Nat), n.whole = t.toNode ∧ n.node = g.toNode ∧ i < j ∧
    g.Joined i j ∧ g.condition? i = some l ∧ g.condition? j = some r ∧
    Lint.Irreconcilable catalog l r

namespace Lint

variable {r : Rule} {t : Tree} {catalog : Catalog} {n : Occurrence} {x : Finding}

/-- Whether a rule gives no id to findings on different nodes of a tree. -/
def Rule.Separates (t : Tree) (catalog : Catalog) (r : Rule) : Prop :=
  ∀ n m : Occurrence, n.whole = t.toNode → m.whole = t.toNode → ∀ x ∈ r.findings catalog n,
    ∀ y ∈ r.findings catalog m, x.id = y.id → x.nodeId = y.nodeId

theorem nodup_ids_iff {fs : List Finding} (h : fs.Pairwise Apart) : (fs.map (·.id)).Nodup ↔
    ∀ x ∈ fs, ∀ y ∈ fs, x.id = y.id → x.nodeId = y.nodeId := by
  constructor
  · intro hids x hx y hy hid
    exact congrArg _ (List.inj_on_of_nodup_map hids hx hy hid)
  · intro hnodes
    refine List.pairwise_map.2 (h.imp_of_mem fun hx hy hapart hid => ?_)
    exact hapart (hnodes _ hx _ hy hid) hid

theorem nodup_ids_tree_iff (hd : t.ids.Nodup) : ((tree t catalog .standard).map (·.id)).Nodup ↔
    ∀ r ∈ standardRules, r.Separates t catalog := by
  rw [nodup_ids_iff (pairwise_tree hd catalog)]
  constructor
  · intro h r hr n m hn hm x hx y hy
    exact h x (mem_tree.2 ⟨n, hn, .inr ⟨r, hr, hx⟩⟩) y (mem_tree.2 ⟨m, hm, .inr ⟨r, hr, hy⟩⟩)
  · intro h x hx y hy hid
    obtain ⟨n, hn, hx⟩ := mem_tree.1 hx
    obtain ⟨m, hm, hy⟩ := mem_tree.1 hy
    rcases hx with hx | ⟨r, hr, hx⟩
    · rcases hy with hy | ⟨s, hs, hy⟩
      · rw [(of_mem_findingsAt_nil hx).2, (of_mem_findingsAt_nil hy).2] at hid
        exact (String.append_right_inj _).1 hid
      · exact absurd hid (id_ne_of_unknown hs hx hy)
    · rcases hy with hy | ⟨s, hs, hy⟩
      · exact absurd hid.symm (id_ne_of_unknown hr hy hx)
      · obtain rfl := rule_eq_of_id_eq hr hs hx hy hid
        exact h r hr n m hn hm x hx y hy hid

theorem separates_of_unkeyed
    (h : ∀ n : Occurrence, ∀ x ∈ r.findings catalog n, x.Unkeyed r.name) :
    r.Separates t catalog := by
  intro n m _ _ x hx y hy hid
  rw [(h n x hx).2, (h m y hy).2] at hid
  exact (String.append_right_inj _).1 hid

theorem separates_operatorAllowed : operatorAllowed.Separates t catalog := by
  refine separates_of_unkeyed fun n x hx => ?_
  obtain ⟨f, c, -, -, hx⟩ := (mem_findings_of_conditions fun _ _ => rfl).1 hx
  exact unkeyed_operatorAllowed hx

theorem separates_valuePresent : valuePresent.Separates t catalog := by
  refine separates_of_unkeyed fun n x hx => ?_
  obtain ⟨f, c, -, -, hx⟩ := (mem_findings_of_conditions fun _ _ => rfl).1 hx
  exact unkeyed_valuePresent hx

theorem separates_groupFilled : groupFilled.Separates t catalog := by
  refine separates_of_unkeyed fun n x hx => ?_
  obtain ⟨g, -, hx⟩ := (mem_findings_of_groups fun _ _ _ => rfl).1 hx
  exact unkeyed_groupFilled hx

theorem separates_constraintsObeyed : constraintsObeyed.Separates t catalog := by
  have hkeyed {n : Occurrence} {x : Finding} (hx : x ∈ constraintsObeyed.findings catalog n) :
      ∃ key, ':' ∉ key.toList ∧
        x.id = "field-constraints" ++ ":" ++ (key ++ ":" ++ x.nodeId) := by
    obtain ⟨f, c, -, -, hx⟩ := (mem_findings_of_conditions fun _ _ => rfl).1 hx
    obtain ⟨cs, v, hv, rfl⟩ := exists_violation hx
    exact ⟨v.key, colon_not_mem_key hv, id_withKey ..⟩
  intro n m _ _ x hx y hy hid
  obtain ⟨key, hkey, hxid⟩ := hkeyed hx
  obtain ⟨key', hkey', hyid⟩ := hkeyed hy
  rw [hxid, hyid, String.append_right_inj] at hid
  exact (append_colon_inj hkey hkey' hid).2

variable {c d : Condition} {i : Nat}

theorem hasOperand_iff : hasOperand c = true ↔
    c.operator.isValueless = false ∧ c.value.isMissing = false := by
  simp [hasOperand]

theorem misshapen_iff {f : Field} (hf : catalog.get? c.field = some f) :
    c.Misshapen catalog ↔
      hasOperand c = true ∧ ∃ fault, operands c.operator c.value = .error fault := by
  simp only [Condition.Misshapen, hasOperand_iff, hf, Option.some.injEq, exists_eq', true_and,
    and_assoc, ← operands_eq_ok]
  refine and_congr_right fun _ => and_congr_right fun _ => ?_
  cases operands c.operator c.value <;> simp

theorem mistyped_iff {f : Field} (hf : catalog.get? c.field = some f) :
    c.Mistyped catalog i ↔ hasOperand c = true ∧ ∃ items v message,
      operands c.operator c.value = .ok items ∧ items[i]? = some v ∧
        typeFault? f v = some message := by
  simp only [Condition.Mistyped, hasOperand_iff, hf, Option.some.injEq, ← operands_eq_ok,
    ← typeFault?_eq_none, ← ne_eq, Option.ne_none_iff_exists', exists_and_left, exists_eq_left',
    and_assoc]

theorem mem_findings_valueTyped : x ∈ valueTyped.findings catalog n ↔
    ∃ f c, n.node = .condition c ∧ catalog.get? c.field = some f ∧
      x ∈ valueTyped.condition ⟨catalog, n.path⟩ f c :=
  mem_findings_of_conditions fun _ _ => rfl

theorem getLastD_path_condition (hn : n.node = .condition c) : n.path.getLastD "" = c.id := by
  rw [getLastD_path, hn, Node.id]

theorem ids_shapeFinding (hn : n.node = .condition c) (f : Field) (fault : ShapeFault) :
    (shapeFinding ⟨catalog, n.path⟩ f c fault).nodeId = c.id ∧
      (shapeFinding ⟨catalog, n.path⟩ f c fault).id = "value-type" ++ ":" ++ c.id := by
  have hnode : (shapeFinding ⟨catalog, n.path⟩ f c fault).nodeId = c.id := by
    rw [← getLastD_path_condition hn]
    cases fault <;> rfl
  rw [(unkeyed_shapeFinding fault).2, hnode]
  exact ⟨rfl, rfl⟩

theorem cases_of_findings_valueTyped (hx : x ∈ valueTyped.findings catalog n) :
    ∃ c, n.node = .condition c ∧ x.nodeId = c.id ∧
      (c.Misshapen catalog ∧ x.id = "value-type" ++ ":" ++ c.id ∨ ∃ i, c.Mistyped catalog i ∧
        x.id = "value-type" ++ ":" ++ (Decimal.natText i ++ ":" ++ c.id)) := by
  obtain ⟨f, c, hn, hf, hx⟩ := mem_findings_valueTyped.1 hx
  refine ⟨c, hn, ?_⟩
  obtain ⟨hoperand, ⟨fault, hops, rfl⟩ | ⟨items, i, v, message, hops, hi, hv, rfl⟩⟩ :=
    mem_valueTyped.1 hx
  · obtain ⟨hnode, hid⟩ := ids_shapeFinding hn f fault
    exact ⟨hnode, .inl ⟨(misshapen_iff hf).2 ⟨hoperand, fault, hops⟩, hid⟩⟩
  · rw [← getLastD_path_condition hn]
    exact ⟨rfl, .inr ⟨i, (mistyped_iff hf).2 ⟨hoperand, items, v, message, hops, hi, hv⟩,
      id_withKey ..⟩⟩

theorem exists_of_misshapen (hn : n.node = .condition c) (hc : c.Misshapen catalog) :
    ∃ x ∈ valueTyped.findings catalog n, x.nodeId = c.id ∧
      x.id = "value-type" ++ ":" ++ c.id := by
  obtain ⟨f, hf⟩ := hc.1
  obtain ⟨hoperand, fault, hops⟩ := (misshapen_iff hf).1 hc
  refine ⟨shapeFinding ⟨catalog, n.path⟩ f c fault, ?_, ids_shapeFinding hn f fault⟩
  exact mem_findings_valueTyped.2
    ⟨f, c, hn, hf, mem_valueTyped.2 ⟨hoperand, .inl ⟨fault, hops, rfl⟩⟩⟩

theorem exists_of_mistyped (hn : n.node = .condition c) (hc : c.Mistyped catalog i) :
    ∃ x ∈ valueTyped.findings catalog n, x.nodeId = c.id ∧
      x.id = "value-type" ++ ":" ++ (Decimal.natText i ++ ":" ++ c.id) := by
  obtain ⟨f, -, -, hf, -⟩ := id hc
  obtain ⟨hoperand, items, v, message, hops, hi, hv⟩ := (mistyped_iff hf).1 hc
  rw [← getLastD_path_condition hn]
  refine ⟨(Finding.error "value-type" message n.path).withKey (Decimal.natText i), ?_, rfl,
    id_withKey ..⟩
  exact mem_findings_valueTyped.2
    ⟨f, c, hn, hf, mem_valueTyped.2 ⟨hoperand, .inr ⟨items, i, v, message, hops, hi, hv, rfl⟩⟩⟩

/-- The rule on types separates the nodes of a tree unless the id of one condition is an index and
the id of another one. -/
theorem separates_valueTyped_iff : valueTyped.Separates t catalog ↔
    ∀ c ∈ t.conditions, ∀ d ∈ t.conditions, ∀ i, c.Misshapen catalog → d.Mistyped catalog i →
      c.id ≠ Decimal.natText i ++ ":" ++ d.id := by
  simp only [Group.mem_conditions]
  constructor
  · rintro h c ⟨n, hn, hc⟩ d ⟨m, hm, hd⟩ i hshape htype hid
    obtain ⟨x, hx, hxnode, hxid⟩ := exists_of_misshapen hc hshape
    obtain ⟨y, hy, hynode, hyid⟩ := exists_of_mistyped hd htype
    have hnode : c.id = d.id := by
      rw [← hxnode, ← hynode]
      exact h n m hn hm x hx y hy (by rw [hxid, hyid, hid])
    have hlength := congrArg String.length (hnode.symm.trans hid)
    simp only [String.length_append] at hlength
    have hcolon : ":".length = 1 := by decide
    omega
  · intro h n m hn hm x hx y hy hid
    obtain ⟨c, hc, hxnode, hx⟩ := cases_of_findings_valueTyped hx
    obtain ⟨d, hd, hynode, hy⟩ := cases_of_findings_valueTyped hy
    rw [hxnode, hynode]
    rcases hx with ⟨hshape, hxid⟩ | ⟨i, htype, hxid⟩
    · rcases hy with ⟨-, hyid⟩ | ⟨j, htype', hyid⟩
      · rwa [hxid, hyid, String.append_right_inj] at hid
      · rw [hxid, hyid, String.append_right_inj] at hid
        exact absurd hid (h c ⟨n, hn, hc⟩ d ⟨m, hm, hd⟩ j hshape htype')
    · rcases hy with ⟨hshape', hyid⟩ | ⟨j, -, hyid⟩
      · rw [hxid, hyid, String.append_right_inj] at hid
        exact absurd hid.symm (h d ⟨m, hm, hd⟩ c ⟨n, hn, hc⟩ i hshape' htype)
      · rw [hxid, hyid, String.append_right_inj] at hid
        exact (append_colon_inj (colon_not_mem_natText i) (colon_not_mem_natText j) hid).2

theorem separates_satisfiable_iff : satisfiable.Separates t catalog ↔
    ∀ l r l' r', t.Conflict catalog l r → t.Conflict catalog l' r' →
      l.id ++ ":" ++ r.id = l'.id ++ ":" ++ r'.id → r.id = r'.id := by
  constructor
  · rintro h l r l' r' ⟨n, g, i, j, hn, hg, hij, hjoined, hl, hr, hlr⟩
      ⟨m, g', i', j', hm, hg', hij', hjoined', hl', hr', hlr'⟩ hid
    have hx := mem_findings_satisfiable.2 ⟨g, i, j, l, r, hg, hij, hjoined, hl, hr, hlr, rfl⟩
    have hy := mem_findings_satisfiable.2
      ⟨g', i', j', l', r', hg', hij', hjoined', hl', hr', hlr', rfl⟩
    have hnode := h n m hn hm _ hx _ hy (by rw [id_contradiction_eq, id_contradiction_eq, hid])
    rwa [nodeId_contradiction, nodeId_contradiction] at hnode
  · intro h n m hn hm x hx y hy hid
    obtain ⟨g, i, j, l, r, hg, hij, hjoined, hl, hr, hlr, rfl⟩ := mem_findings_satisfiable.1 hx
    obtain ⟨g', i', j', l', r', hg', hij', hjoined', hl', hr', hlr', rfl⟩ :=
      mem_findings_satisfiable.1 hy
    rw [id_contradiction_eq, id_contradiction_eq, String.append_right_inj] at hid
    rw [nodeId_contradiction, nodeId_contradiction]
    exact h l r l' r' ⟨n, g, i, j, hn, hg, hij, hjoined, hl, hr, hlr⟩
      ⟨m, g', i', j', hm, hg', hij', hjoined', hl', hr', hlr'⟩ hid

theorem mem_conditions_of_conflict {l r : Condition} (h : t.Conflict catalog l r) :
    l ∈ t.conditions ∧ r ∈ t.conditions := by
  obtain ⟨n, g, i, j, hn, hg, -, -, hl, hr, -⟩ := h
  rw [Group.condition?_eq_some] at hl hr
  obtain ⟨o, ho, hol, -⟩ := Node.exists_child hn hg hl
  obtain ⟨p, hp, hpr, -⟩ := Node.exists_child hn hg hr
  exact ⟨Group.mem_conditions.2 ⟨o, ho, hol⟩, Group.mem_conditions.2 ⟨p, hp, hpr⟩⟩

theorem conflict_eq (hd : t.ids.Nodup) {l r l' r' : Condition} (h : t.Conflict catalog l r)
    (h' : t.Conflict catalog l' r') (hjoined : l.id ++ ":" ++ r.id = l'.id ++ ":" ++ r'.id)
    (hid : r.id = r'.id) : l = l' ∧ r = r' := by
  rw [hid, String.append_left_inj, String.append_left_inj] at hjoined
  obtain ⟨hl, hr⟩ := mem_conditions_of_conflict h
  obtain ⟨hl', hr'⟩ := mem_conditions_of_conflict h'
  exact ⟨Group.condition_inj hd hl hl' hjoined, Group.condition_inj hd hr hr' hid⟩

/-- Only two of the rules can give one id to findings on different nodes. -/
theorem separates_iff (hd : t.ids.Nodup) : (∀ r ∈ standardRules, r.Separates t catalog) ↔
    (∀ c ∈ t.conditions, ∀ d ∈ t.conditions, ∀ i, c.Misshapen catalog → d.Mistyped catalog i →
      c.id ≠ Decimal.natText i ++ ":" ++ d.id) ∧
    ∀ l r l' r', t.Conflict catalog l r → t.Conflict catalog l' r' →
      l.id ++ ":" ++ r.id = l'.id ++ ":" ++ r'.id → l = l' ∧ r = r' := by
  simp only [standardRules, List.forall_mem_cons, List.not_mem_nil, false_implies, implies_true,
    and_true, separates_operatorAllowed, separates_valuePresent, separates_constraintsObeyed,
    separates_groupFilled, true_and, separates_valueTyped_iff, separates_satisfiable_iff]
  refine and_congr_right fun _ => ⟨fun h l r l' r' hlr hlr' hid => ?_,
    fun h l r l' r' hlr hlr' hid => congrArg _ (h l r l' r' hlr hlr' hid).2⟩
  exact conflict_eq hd hlr hlr' hid (h l r l' r' hlr hlr' hid)

theorem separates_of_no_colon (h : ∀ id ∈ t.ids, ':' ∉ id.toList) :
    valueTyped.Separates t catalog ∧ satisfiable.Separates t catalog := by
  refine ⟨separates_valueTyped_iff.2 ?_, separates_satisfiable_iff.2 ?_⟩
  · intro c hc d _ i _ _ hid
    refine h c.id (Group.id_mem_of_mem_conditions hc) ?_
    simp [hid]
  · intro l r l' r' hlr hlr' hid
    have hl := h l.id (Group.id_mem_of_mem_conditions (mem_conditions_of_conflict hlr).1)
    have hl' := h l'.id (Group.id_mem_of_mem_conditions (mem_conditions_of_conflict hlr').1)
    exact (append_colon_inj hl hl' hid).2

end Lint

open Lint

/-- If the nodes of a tree have distinct ids, the findings on any one of them have as well, so a
finding is told from all others by its node and its id. The id alone is enough if and only if no two
nodes trick the rules that glue them together: a condition with a value that is not of the shape of
its operator, whose id is an index and the id of a condition where the item at that index is not of
the type, and two pairs of conditions that contradict each other whose ids read the same with a
colon in between. Nodes without colons in their ids never do. -/
theorem findings_told_apart (t : Tree) (catalog : Catalog) (hd : t.ids.Nodup) :
    ((Lint.tree t catalog .standard).map fun f => (f.nodeId, f.id)).Nodup ∧
      (((Lint.tree t catalog .standard).map (·.id)).Nodup ↔
        (∀ c ∈ t.conditions, ∀ d ∈ t.conditions, ∀ i, c.Misshapen catalog →
          d.Mistyped catalog i → c.id ≠ Decimal.natText i ++ ":" ++ d.id) ∧
        ∀ l r l' r', t.Conflict catalog l r → t.Conflict catalog l' r' →
          l.id ++ ":" ++ r.id = l'.id ++ ":" ++ r'.id → l = l' ∧ r = r') ∧
      ((∀ id ∈ t.ids, ':' ∉ id.toList) →
        ((Lint.tree t catalog .standard).map (·.id)).Nodup) := by
  refine ⟨?_, (nodup_ids_tree_iff hd).trans (separates_iff hd), fun h => ?_⟩
  · refine List.pairwise_map.2 ((pairwise_tree hd catalog).imp fun hapart hpair => ?_)
    obtain ⟨hnode, hid⟩ := Prod.mk.inj hpair
    exact hapart hnode hid
  · have hseparates : valueTyped.Separates t catalog ∧ satisfiable.Separates t catalog :=
      separates_of_no_colon h
    rw [nodup_ids_tree_iff hd]
    simp only [standardRules, List.forall_mem_cons, List.not_mem_nil, false_implies, implies_true,
      and_true]
    exact ⟨separates_operatorAllowed, separates_valuePresent, hseparates.1,
      separates_constraintsObeyed, separates_groupFilled, hseparates.2⟩

/-- In each of two groups two conditions contradict each other, and the ids of the one pair read
like those of the other one. -/
theorem findings_told_apart_conflicts :
    let l (id : String) : Node := .condition ⟨id, "x", .greaterThan, .text "10", none⟩
    let r (id : String) : Node := .condition ⟨id, "x", .lessThan, .text "5", none⟩
    let t : Tree := ⟨⟨"t", .or, false, none⟩,
      [.group ⟨"g", .and, false, none⟩ [l "a", r "b:c"],
        .group ⟨"h", .and, false, none⟩ [l "a:b", r "c"]]⟩
    let catalog : Catalog := ⟨[⟨"x", "X", .number, none, [], none⟩]⟩
    t.ids.Nodup ∧
      (Lint.tree t catalog .standard).map (·.id) =
        ["contradiction:a:b:c", "contradiction:a:b:c"] ∧
      ((Lint.tree t catalog .standard).map fun f => (f.nodeId, f.id)).Nodup := by
  intro l r t catalog
  have hd : t.ids.Nodup := by decide
  exact ⟨hd, by decide +kernel, (findings_told_apart t catalog hd).1⟩

/-- A list for an operator on a single value, and a text on a field of numbers. The id of the first
condition is an index and the id of the second one. -/
theorem index_in_node_id :
    let c : Condition := ⟨"0:x", "n", .equals, .list [.text "1"], none⟩
    let d : Condition := ⟨"x", "n", .equals, .text "abc", none⟩
    let t : Tree := ⟨⟨"r", .and, false, none⟩, [.condition c, .condition d]⟩
    let catalog : Catalog := ⟨[⟨"n", "N", .number, none, [], none⟩]⟩
    t.ids.Nodup ∧
      (Lint.tree t catalog .standard).map (·.id) = ["value-type:0:x", "value-type:0:x"] ∧
      ¬ ((Lint.tree t catalog .standard).map (·.id)).Nodup := by
  intro c d t catalog
  have hids : (Lint.tree t catalog .standard).map (·.id) =
      ["value-type:0:x", "value-type:0:x"] := by decide +kernel
  exact ⟨by decide, hids, by rw [hids]; decide⟩

end Criteria
