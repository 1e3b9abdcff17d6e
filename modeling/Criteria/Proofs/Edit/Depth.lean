import Criteria.Proofs.Edit.Distinct
import Criteria.Proofs.Tree.Lookup

namespace Criteria

namespace Node

mutual

/-- The depths of the groups of a node that lies in `depth` groups. -/
def groupDepths (depth : Nat) : Node → List Nat
  | .condition _ => []
  | .group _ children => depth :: groupDepthsOf (depth + 1) children

def groupDepthsOf (depth : Nat) : List Node → List Nat
  | [] => []
  | n :: ns => n.groupDepths depth ++ groupDepthsOf depth ns

end

mutual

theorem groupDepths_le_iff (n : Node) (depth max : Nat) :
    (∀ k ∈ n.groupDepths depth, k ≤ max) ↔ n.height = 0 ∨ depth + n.height ≤ max + 1 := by
  cases n with
  | condition d => simp only [groupDepths, height, List.not_mem_nil, false_implies, implies_true,
      true_or]
  | group k children =>
    simp only [groupDepths, height, List.forall_mem_cons, groupDepthsOf_le_iff children]
    omega

theorem groupDepthsOf_le_iff (ns : List Node) (depth max : Nat) :
    (∀ k ∈ groupDepthsOf depth ns, k ≤ max) ↔ heightOf ns = 0 ∨ depth + heightOf ns ≤ max + 1 := by
  cases ns with
  | nil => simp only [groupDepthsOf, heightOf, List.not_mem_nil, false_implies, implies_true,
      true_or]
  | cons n ns =>
    simp only [groupDepthsOf, heightOf, List.forall_mem_append, groupDepths_le_iff n,
      groupDepthsOf_le_iff ns]
    omega

end

theorem heightOf_append (ns ms : List Node) :
    heightOf (ns ++ ms) = max (heightOf ns) (heightOf ms) := by
  induction ns with
  | nil => simp only [List.nil_append, heightOf, Nat.zero_max]
  | cons n ns ih => simp only [List.cons_append, heightOf, ih, Nat.max_assoc]

/-- The height that the groups around a place have without what stands there. -/
def heightAround : List Frame → Nat
  | [] => 0
  | f :: c => max (heightOf (f.before ++ f.after)) (heightAround c) + 1

theorem height_within (n : Node) (c : List Frame) :
    (n.within c).height = max (heightAround c) (c.length + n.height) := by
  induction c with
  | nil => simp only [within, heightAround, List.length_nil, Nat.zero_add, Nat.zero_max]
  | cons f c ih =>
    simp only [within, Frame.fill, height, heightOf_append, heightOf, ih, heightAround,
      List.length_cons]
    omega

theorem height_within_max {n m : Node} {k : Nat} (h : m.height = max n.height k) (c : List Frame) :
    (m.within c).height = max (n.within c).height (c.length + k) := by
  rw [height_within, height_within, h]
  omega

theorem height_within_le {n m : Node} (h : m.height ≤ n.height) (c : List Frame) :
    (m.within c).height ≤ (n.within c).height := by
  rw [height_within, height_within]
  omega

mutual

theorem height_relabel (assign : Claims → String → String × Claims) (c : Claims) (n : Node) :
    (n.relabel assign c).1.height = n.height := by
  cases n with
  | condition d => rfl
  | group k children => simp only [relabel, height, heightOf_relabelAll]

theorem heightOf_relabelAll (assign : Claims → String → String × Claims) (c : Claims)
    (ns : List Node) : heightOf (relabelAll assign c ns).1 = heightOf ns := by
  cases ns with
  | nil => rfl
  | cons n ns => simp only [relabelAll, heightOf, height_relabel, heightOf_relabelAll]

end

end Node

namespace Group

variable {t t' g : Tree} {id : String} {c : List Frame} {n : Node} {p : Place}

/-- Whether no group of the tree lies deeper than `max`; the root has depth 0. -/
def IsWithin (max : Nat) (t : Tree) : Prop := ∀ k ∈ t.toNode.groupDepths 0, k ≤ max

instance (max : Nat) (t : Tree) : Decidable (t.IsWithin max) :=
  inferInstanceAs (Decidable (∀ k ∈ t.toNode.groupDepths 0, k ≤ max))

theorem isWithin_iff {max : Nat} : t.IsWithin max ↔ t.height ≤ max + 1 := by
  rw [IsWithin, Node.groupDepths_le_iff, Nat.zero_add]
  exact or_iff_right (Nat.succ_ne_zero _)

theorem depth?_of_within (hd : t.ids.Nodup) (ht : t.toNode = n.within c) :
    t.depth? n.id = some c.length := by
  rw [ids, ht] at hd
  rw [depth?, path?, ht, Node.path?_within (Node.not_mem_idsBefore hd), Option.map_some,
    List.length_append, List.length_map, List.length_singleton, Nat.add_sub_cancel]

theorem height_append (n : Node) (g : Group) :
    (append n g).height = max g.height (n.height + 1) := by
  simp only [append, height, toNode, Node.height, Node.heightOf_append, Node.heightOf, Nat.max_zero,
    Nat.add_max_add_right]

theorem height_insert (i : Nat) (n : Node) (g : Group) :
    (insert i n g).height = max g.height (n.height + 1) := by
  have hsplit : Node.heightOf g.children =
      max (Node.heightOf (g.children.take i)) (Node.heightOf (g.children.drop i)) := by
    rw [← Node.heightOf_append, List.take_append_drop]
  simp only [insert, height, toNode, Node.height, Node.heightOf_append, Node.heightOf, hsplit]
  omega

theorem height_fill (p : Place) (ns : List Node) :
    (p.fill ns).height
      = max (max (Node.heightOf p.before) (Node.heightOf ns)) (Node.heightOf p.after) + 1 := by
  simp only [Place.fill, height, toNode, Node.height, Node.heightOf_append]

theorem height_editGroup {f : Group → Group} (hd : t.ids.Nodup)
    (hf : ∀ g, (f g).height = max g.height (n.height + 1)) (h : t.editGroup id f = .ok t') :
    ∃ depth, t.depth? id = some depth ∧ t'.height = max t.height (depth + n.height + 1) := by
  obtain ⟨g, c, hg, ht, ht'⟩ := editGroup_ok h
  obtain rfl : g.id = id := id_of_group_ok hg
  refine ⟨c.length, depth?_of_within (n := g.toNode) hd ht, ?_⟩
  rw [height, height, ht, ht']
  exact Node.height_within_max (hf g) c

theorem height_editGroup_le {f : Group → Group} (h : t.editGroup id f = .ok t')
    (hf : ∀ g, (f g).height = g.height) : t'.height ≤ t.height := by
  obtain ⟨g, c, -, ht, ht'⟩ := editGroup_ok h
  rw [height, height, ht, ht']
  exact Node.height_within_le (Nat.le_of_eq (hf g)) c

theorem height_replace_place (hp : t.place id = .ok p) {ns : List Node}
    (h : Node.heightOf ns ≤ p.node.height) :
    (t.replace p.header.id (p.fill ns)).height ≤ t.height := by
  obtain ⟨c, ht, ht'⟩ := place_within hp
  rw [height, height, ht, ht']
  refine Node.height_within_le ?_ c
  change (p.fill ns).height ≤ (p.fill [p.node]).height
  rw [height_fill, height_fill]
  simp only [Node.heightOf, Nat.max_zero]
  omega

theorem height_editPlace_le {e : Place → List Node} (h : t.editPlace id e = .ok t')
    (he : ∀ p, Node.heightOf (e p) ≤ p.node.height) : t'.height ≤ t.height := by
  obtain ⟨p, hp, rfl⟩ := editPlace_ok h
  exact height_replace_place hp (he p)

theorem height_updateCondition_le {patch : ConditionPatch}
    (h : t.updateCondition id patch = .ok t') : t'.height ≤ t.height := by
  rw [updateCondition] at h
  split at h
  · refine height_editPlace_le h fun p => ?_
    cases p.node <;> simp only [Node.heightOf, Node.height, Nat.max_zero, Nat.le_refl]
  · cases h

theorem height_setEdge_le {edge : Option Combinator} (h : t.setEdge id edge = .ok t') :
    t'.height ≤ t.height := by
  refine height_editPlace_le h fun p => ?_
  cases p.node <;> simp only [Node.withEdge, Node.heightOf, Node.height, Nat.max_zero, Nat.le_refl]

theorem height_deleteNode_le (h : t.deleteNode id = .ok t') : t'.height ≤ t.height :=
  height_editPlace_le h fun _ => Nat.zero_le _

theorem height_cloneNode_le {after : Bool} {s : IdSource} (h : (t.cloneNode id after s).1 = .ok t') :
    t'.height ≤ t.height := by
  rw [cloneNode] at h
  split at h
  · cases h
  · next p hp =>
    obtain rfl := Except.ok.inj h
    refine height_replace_place hp ?_
    split <;> simp only [Node.heightOf, Node.copy, Node.height_relabel, Nat.max_zero,
      Nat.max_self, Nat.le_refl]

theorem height_append_condition_le {d : Condition}
    (h : t.editGroup id (append (.condition d)) = .ok t') : t'.height ≤ t.height := by
  refine height_editGroup_le h fun g => ?_
  rw [height_append, height, toNode, Node.height, Node.height]
  omega

theorem height_addCondition_le {d : Option Condition} {ctx : EditContext} {s : IdSource}
    (h : (t.addCondition id d ctx s).1 = .ok t') : t'.height ≤ t.height := by
  cases d with
  | some d => exact height_append_condition_le h
  | none =>
    simp only [addCondition, newCondition] at h
    cases hf : ctx.catalog.first? with
    | none =>
      rw [hf] at h
      cases h
    | some f =>
      rw [hf] at h
      exact height_append_condition_le h

theorem height_addGroup_le {max : Nat} {child : Option Group} {ctx : EditContext} {s : IdSource}
    (hd : t.ids.Nodup) (hmax : ctx.maxDepth = some max) (hw : t.height ≤ max + 1)
    (h : (t.addGroup id child ctx s).1 = .ok t') : t'.height ≤ max + 1 := by
  rw [addGroup] at h
  split at h
  · cases h
  · dsimp only at h
    split at h
    · cases h
    · next hroom =>
      obtain ⟨depth, hdepth, hheight⟩ := height_editGroup hd (height_append _) h
      rw [hmax, hdepth] at hroom
      have hroom := Option.filter_eq_none_iff.1 hroom max rfl
      simp only [Option.getD_some, decide_eq_true_eq, Nat.not_lt] at hroom
      omega

theorem path?_deleteNode {target : String} (h : t.deleteNode id = .ok t')
    (hp : t.place id = .ok p) (htarget : target ∉ p.node.ids) :
    t'.path? target = t.path? target := by
  obtain ⟨q, hq, rfl⟩ := editPlace_ok h
  obtain rfl : p = q := Except.ok.inj (hp.symm.trans hq)
  obtain ⟨c, ht, ht'⟩ := place_within hp
  rw [path?, path?, ht, ht']
  refine Node.path?_within_congr ?_ c
  simp only [Place.fill, toNode, Node.path?, Node.pathAmong?_append, Node.pathAmong?,
    Node.path?_of_not_mem p.node htarget, Option.or_none]

/-- What is moved lies one deeper than the group that it goes to; the rest keeps its height or gets
lower. -/
theorem height_moveNode {target : String} {index : Nat} (hd : t.ids.Nodup)
    (h : t.moveNode id target index = .ok t') :
    ∃ node depth, t.find? id = some node ∧ t.depth? target = some depth ∧
      ∃ rest ≤ t.height, t'.height = max rest (depth + node.height + 1) := by
  obtain ⟨node, detached, hn, hdel, hedit⟩ := moveNode_ok h
  obtain ⟨p, hp, -⟩ := editPlace_ok hdel
  obtain rfl : p.node = node := Option.some.inj ((find?_of_place hd hp).symm.trans hn)
  have hperm : (p.node.ids ++ detached.ids).Perm t.ids := perm_deleteNode hd hn hdel
  have happ : (p.node.ids ++ detached.ids).Nodup := hperm.nodup_iff.2 hd
  obtain ⟨g, -, hg, -⟩ := editGroup_ok hedit
  have hmem : target ∈ detached.ids := by
    by_contra hnot
    cases ((Node.find?_eq_none _).2 hnot).symm.trans (group_ok_iff.1 hg)
  have hpath : detached.path? target = t.path? target :=
    path?_deleteNode hdel hp fun hin => (List.disjoint_of_nodup_append happ) hin hmem
  obtain ⟨depth, hdepth, hheight⟩ :=
    height_editGroup happ.of_append_right (height_insert index p.node) hedit
  rw [depth?, hpath] at hdepth
  exact ⟨p.node, depth, hn, hdepth, detached.height, height_deleteNode_le hdel, hheight⟩

end Group

namespace Mutation

/-- Whether a mutation of the tree, if it is a move, has room for what it moves: no group of that
comes to lie deeper than `max`. -/
def HasRoom (max : Nat) (t : Tree) : Mutation → Prop
  | moveNode node group _ =>
    ∀ n depth, t.find? node = some n → t.depth? group = some depth → depth + n.height ≤ max
  | _ => True

variable {ctx : EditContext} {s : IdSource} {t t' : Tree} {max : Nat}

/-- An edit leaves a tree within the limit if and only if it is no move, or a move that has room.
-/
theorem isWithin_apply_iff (m : Mutation) (hd : t.ids.Nodup) (hmax : ctx.maxDepth = some max)
    (hw : t.IsWithin max) (h : (m.apply ctx s t).1 = .ok t') :
    t'.IsWithin max ↔ m.HasRoom max t := by
  rw [Group.isWithin_iff] at hw ⊢
  cases m with
  | moveNode node group index =>
    obtain ⟨n, depth, hn, hdepth, rest, hrest, hheight⟩ := Group.height_moveNode hd h
    rw [hheight]
    constructor
    · intro hle n' depth' hn' hdepth'
      cases hn.symm.trans hn'
      cases hdepth.symm.trans hdepth'
      omega
    · intro hroom
      have hroom := hroom n depth hn hdepth
      omega
  | addCondition group condition =>
    exact iff_of_true ((Group.height_addCondition_le h).trans hw) trivial
  | addGroup group child => exact iff_of_true (Group.height_addGroup_le hd hmax hw h) trivial
  | updateCondition node patch =>
    exact iff_of_true ((Group.height_updateCondition_le h).trans hw) trivial
  | updateGroup group patch =>
    exact iff_of_true ((Group.height_editGroup_le h fun _ => rfl).trans hw) trivial
  | deleteNode node => exact iff_of_true ((Group.height_deleteNode_le h).trans hw) trivial
  | cloneNode node after => exact iff_of_true ((Group.height_cloneNode_le h).trans hw) trivial
  | setCombinator group combinator =>
    exact iff_of_true ((Group.height_editGroup_le h fun _ => rfl).trans hw) trivial
  | setEdge node edge => exact iff_of_true ((Group.height_setEdge_le h).trans hw) trivial
  | toggleNegation group =>
    exact iff_of_true ((Group.height_editGroup_le h fun _ => rfl).trans hw) trivial

end Mutation

end Criteria
