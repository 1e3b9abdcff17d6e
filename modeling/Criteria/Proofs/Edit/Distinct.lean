import Criteria.Edit.Mutation
import Criteria.Proofs.Edit.Claim
import Criteria.Proofs.Edit.Place

namespace Criteria

theorem subperm_between {xs ys new : List String} (h : xs.Subperm (new ++ ys))
    (l r : List String) : (l ++ xs ++ r).Subperm (new ++ (l ++ ys ++ r)) := by
  have hmid : (l ++ xs ++ r).Subperm (l ++ (new ++ ys) ++ r) :=
    (List.subperm_append_right r).2 ((List.subperm_append_left l).2 h)
  have hperm : (l ++ (new ++ ys) ++ r).Perm (new ++ (l ++ ys ++ r)) := by
    simpa only [List.append_assoc] using List.perm_append_comm_assoc l new (ys ++ r)
  exact hmid.trans hperm.subperm

theorem Node.subperm_within {n m : Node} {new : List String}
    (h : m.ids.Subperm (new ++ n.ids)) (c : List Frame) :
    (m.within c).ids.Subperm (new ++ (n.within c).ids) := by
  rw [ids_within, ids_within]
  exact subperm_between h _ _

theorem Place.subperm_fill (p : Place) {ns ms : List Node} {new : List String}
    (h : (Node.idsOf ms).Subperm (new ++ Node.idsOf ns)) :
    (p.fill ms).ids.Subperm (new ++ (p.fill ns).ids) := by
  have hids (ns : List Node) : (p.fill ns).ids =
      p.header.id :: Node.idsOf p.before ++ Node.idsOf ns ++ Node.idsOf p.after := by
    simp only [fill, Group.ids, Group.toNode, Node.ids, Node.idsOf_append, List.cons_append]
  rw [hids, hids]
  exact subperm_between h _ _

namespace Group

variable {t t' : Tree} {id : String} {f : Group → Group} {e : Place → List Node} {p : Place}
  {new : List String} {n : Node}

theorem subperm_editGroup (hf : ∀ g, (f g).ids.Subperm (new ++ g.ids))
    (h : t.editGroup id f = .ok t') : t'.ids.Subperm (new ++ t.ids) := by
  obtain ⟨g, c, -, ht, ht'⟩ := editGroup_ok h
  rw [ids, ids, ht, ht']
  exact Node.subperm_within (hf g) c

theorem subperm_replace_place (hp : t.place id = .ok p) {ns : List Node}
    (h : (Node.idsOf ns).Subperm (new ++ p.node.ids)) :
    (t.replace p.header.id (p.fill ns)).ids.Subperm (new ++ t.ids) := by
  obtain ⟨c, ht, ht'⟩ := place_within hp
  rw [ids, ids, ht, ht']
  refine Node.subperm_within (p.subperm_fill ?_) c
  simpa only [Node.idsOf, List.append_nil] using h

theorem subperm_editPlace (he : ∀ p, (Node.idsOf (e p)).Subperm (new ++ p.node.ids))
    (h : t.editPlace id e = .ok t') : t'.ids.Subperm (new ++ t.ids) := by
  obtain ⟨p, hp, rfl⟩ := editPlace_ok h
  exact subperm_replace_place hp (he p)

theorem ids_append (n : Node) (g : Group) : (append n g).ids = g.ids ++ n.ids := by
  simp only [append, ids, toNode, Node.ids, Node.idsOf_append, Node.idsOf, List.append_nil,
    List.cons_append]

theorem subperm_append (n : Node) (g : Group) : (append n g).ids.Subperm (n.ids ++ g.ids) := by
  rw [ids_append]
  exact List.perm_append_comm.subperm

theorem ids_insert_perm (i : Nat) (n : Node) (g : Group) :
    (insert i n g).ids.Perm (n.ids ++ g.ids) := by
  have hsplit : Node.idsOf g.children =
      Node.idsOf (g.children.take i) ++ Node.idsOf (g.children.drop i) := by
    rw [← Node.idsOf_append, List.take_append_drop]
  simp only [insert, ids, toNode, Node.ids, Node.idsOf_append, Node.idsOf, hsplit]
  rw [← List.cons_append, ← List.cons_append]
  exact List.perm_append_comm_assoc _ _ _

/-- The ids of an edited tree in terms of the ids of the tree: it may have lost some of these, and
what is new differs from them and is not repeated. -/
def Grows (t t' : Tree) : Prop :=
  ∃ new, (new ++ t.ids).Nodup ∧ t'.ids.Subperm (new ++ t.ids)

theorem Grows.nodup (h : Grows t t') : t'.ids.Nodup := by
  obtain ⟨new, hd, l, hl, hsub⟩ := h
  exact hl.nodup_iff.1 (hd.sublist hsub)

theorem grows_editGroup (hd : t.ids.Nodup) (h : t.editGroup id f = .ok t')
    (hf : ∀ g, (f g).ids = g.ids) : Grows t t' := by
  refine ⟨[], hd, subperm_editGroup (fun g => ?_) h⟩
  rw [hf]
  exact List.Subperm.refl _

theorem grows_editPlace (hd : t.ids.Nodup) (h : t.editPlace id e = .ok t')
    (he : ∀ p, (Node.idsOf (e p)).Subperm p.node.ids) : Grows t t' :=
  ⟨[], hd, subperm_editPlace he h⟩

theorem grows_updateCondition {patch : ConditionPatch} (hd : t.ids.Nodup)
    (h : t.updateCondition id patch = .ok t') : Grows t t' := by
  rw [updateCondition] at h
  split at h
  · refine grows_editPlace hd h fun p => ?_
    cases p.node <;> simp only [Node.idsOf, List.append_nil] <;> exact List.Subperm.refl _
  · cases h

theorem grows_setEdge {edge : Option Combinator} (hd : t.ids.Nodup)
    (h : t.setEdge id edge = .ok t') : Grows t t' := by
  refine grows_editPlace hd h fun p => ?_
  cases p.node <;> simp only [Node.withEdge, Node.idsOf, List.append_nil] <;>
    exact List.Subperm.refl _

/-- What is taken out is missing from the rest of the tree. -/
theorem perm_deleteNode {node : Node} (hd : t.ids.Nodup) (hn : t.find? id = some node)
    (h : t.deleteNode id = .ok t') : (node.ids ++ t'.ids).Perm t.ids := by
  obtain ⟨p, hp, rfl⟩ := editPlace_ok h
  obtain rfl : p.node = node := Option.some.inj ((find?_of_place hd hp).symm.trans hn)
  obtain ⟨c, ht, ht'⟩ := place_within hp
  rw [ids, ids, ht, ht']
  simp only [Node.ids_within, Place.fill, toNode, Node.ids, Node.idsOf_append, Node.idsOf,
    List.append_nil, List.append_assoc, List.cons_append]
  refine (List.perm_append_comm_assoc _ _ _).trans (List.Perm.append_left _ ?_)
  refine List.perm_middle.trans (List.Perm.cons _ ?_)
  exact List.perm_append_comm_assoc _ _ _

theorem moveNode_ok {target : String} {index : Nat} (h : t.moveNode id target index = .ok t') :
    ∃ node detached, t.find? id = some node ∧ t.deleteNode id = .ok detached ∧
      detached.editGroup target (insert index node) = .ok t' := by
  rw [moveNode] at h
  split at h
  · cases h
  · split at h
    · cases h
    · next node hn =>
      split at h
      · cases h
      · split at h
        · cases h
        · split at h
          · cases h
          · cases hdel : t.deleteNode id with
            | error e => rw [hdel] at h; cases h
            | ok detached =>
              rw [hdel] at h
              exact ⟨node, detached, hn, rfl, h⟩

theorem grows_moveNode {target : String} {index : Nat} (hd : t.ids.Nodup)
    (h : t.moveNode id target index = .ok t') : Grows t t' := by
  obtain ⟨node, detached, hn, hdel, hedit⟩ := moveNode_ok h
  have hmove := subperm_editGroup (fun g => (ids_insert_perm index node g).subperm) hedit
  exact ⟨[], hd, hmove.trans (perm_deleteNode hd hn hdel).subperm⟩

theorem nodup_enter {assign : Claims → String → String × Claims} (ha : Claims.Assigns assign)
    (hd : t.ids.Nodup) (s : IdSource) (n : Node) :
    ((n.relabel assign (.ofTree s t)).1.ids ++ t.ids).Nodup :=
  Node.nodup_relabel ha (c := .ofTree s t) hd n

theorem cloneNode_ok {after : Bool} {s : IdSource} (h : (t.cloneNode id after s).1 = .ok t') :
    ∃ p, t.place id = .ok p ∧ t' = t.replace p.header.id
      (p.fill (if after then [p.node, (p.node.copy (.ofTree s t)).1]
        else [(p.node.copy (.ofTree s t)).1, p.node])) := by
  rw [cloneNode] at h
  cases hp : t.place id with
  | error e =>
    rw [hp] at h
    cases h
  | ok p =>
    rw [hp] at h
    exact ⟨p, rfl, (Except.ok.inj h).symm⟩

theorem grows_cloneNode {after : Bool} {s : IdSource} (hd : t.ids.Nodup)
    (h : (t.cloneNode id after s).1 = .ok t') : Grows t t' := by
  obtain ⟨p, hp, rfl⟩ := cloneNode_ok h
  refine ⟨_, nodup_enter Claims.fresh_assigns hd s p.node, subperm_replace_place hp ?_⟩
  split
  · simp only [Node.idsOf, List.append_nil]
    exact List.perm_append_comm.subperm
  · simp only [Node.idsOf, List.append_nil]
    exact List.Subperm.refl _

theorem grows_append (hn : (n.ids ++ t.ids).Nodup) (h : t.editGroup id (append n) = .ok t') :
    Grows t t' :=
  ⟨n.ids, hn, subperm_editGroup (subperm_append n) h⟩

theorem nodup_enter_empty (hd : t.ids.Nodup) (s : IdSource) :
    ((empty (Claims.ofTree s t).fresh.1).ids ++ t.ids).Nodup :=
  hd.cons (Claims.ofTree s t).fresh_not_mem

theorem nodup_newCondition {ctx : EditContext} {s : IdSource} {c : Claims} (hd : t.ids.Nodup)
    (h : newCondition ctx (.ofTree s t) = .ok (n, c)) : (n.ids ++ t.ids).Nodup := by
  rw [newCondition] at h
  split at h
  · cases h
  · obtain ⟨rfl, -⟩ := Prod.mk.inj (Except.ok.inj h)
    exact hd.cons (Claims.ofTree s t).fresh_not_mem

theorem addCondition_ok {d : Option Condition} {ctx : EditContext} {s : IdSource}
    (hd : t.ids.Nodup) (h : (t.addCondition id d ctx s).1 = .ok t') :
    ∃ n : Node, (n.ids ++ t.ids).Nodup ∧ t.editGroup id (append n) = .ok t' := by
  cases d with
  | some d => exact ⟨_, nodup_enter Claims.claim_assigns hd s (.condition d), h⟩
  | none =>
    simp only [addCondition] at h
    split at h
    · cases h
    · next n c hn => exact ⟨n, nodup_newCondition hd hn, h⟩

theorem grows_addCondition {d : Option Condition} {ctx : EditContext} {s : IdSource}
    (hd : t.ids.Nodup) (h : (t.addCondition id d ctx s).1 = .ok t') : Grows t t' := by
  obtain ⟨n, hn, hok⟩ := addCondition_ok hd h
  exact grows_append hn hok

theorem addGroup_ok {child : Option Group} {ctx : EditContext} {s : IdSource}
    (hd : t.ids.Nodup) (h : (t.addGroup id child ctx s).1 = .ok t') :
    ∃ n : Node, (n.ids ++ t.ids).Nodup ∧ t.editGroup id (append n) = .ok t' := by
  rw [addGroup] at h
  split at h
  · cases h
  · cases child with
    | some g =>
      dsimp only at h
      split at h
      · cases h
      · exact ⟨_, nodup_enter Claims.claim_assigns hd s g.toNode, h⟩
    | none =>
      dsimp only at h
      split at h
      · cases h
      · exact ⟨_, nodup_enter_empty hd s, h⟩

theorem grows_addGroup {child : Option Group} {ctx : EditContext} {s : IdSource}
    (hd : t.ids.Nodup) (h : (t.addGroup id child ctx s).1 = .ok t') : Grows t t' := by
  obtain ⟨n, hn, hok⟩ := addGroup_ok hd h
  exact grows_append hn hok

end Group

namespace Mutation

variable {ctx : EditContext} {s : IdSource} {t t' : Tree}

theorem grows_apply (m : Mutation) (hd : t.ids.Nodup) (h : (m.apply ctx s t).1 = .ok t') :
    t.Grows t' := by
  cases m with
  | addCondition group condition => exact Group.grows_addCondition hd h
  | addGroup group child => exact Group.grows_addGroup hd h
  | updateCondition node patch => exact Group.grows_updateCondition hd h
  | updateGroup group patch => exact Group.grows_editGroup hd h fun _ => rfl
  | deleteNode node => exact Group.grows_editPlace hd h fun _ => List.nil_subperm
  | cloneNode node after => exact Group.grows_cloneNode hd h
  | moveNode node group index => exact Group.grows_moveNode hd h
  | setCombinator group combinator => exact Group.grows_editGroup hd h fun _ => rfl
  | setEdge node edge => exact Group.grows_setEdge hd h
  | toggleNegation group => exact Group.grows_editGroup hd h fun _ => rfl

theorem nodup_apply (m : Mutation) (hd : t.ids.Nodup) (h : (m.apply ctx s t).1 = .ok t') :
    t'.ids.Nodup :=
  (m.grows_apply hd h).nodup

theorem nodup_applyOrKeep (m : Mutation) (hd : t.ids.Nodup) :
    (m.applyOrKeep ctx s t).1.ids.Nodup := by
  rw [applyOrKeep]
  cases h : m.apply ctx s t with
  | mk result ids =>
    cases result with
    | error e => exact hd
    | ok t' => exact m.nodup_apply hd (congrArg Prod.fst h)

/-- Makes edits one after another, each in a context of its own; a rejected one leaves the tree as
it is. -/
def run (s : IdSource) (t : Tree) : List (EditContext × Mutation) → Tree × IdSource
  | [] => (t, s)
  | (ctx, m) :: edits =>
    let (t, s) := m.applyOrKeep ctx s t
    run s t edits

theorem nodup_run (edits : List (EditContext × Mutation)) (s : IdSource) (hd : t.ids.Nodup) :
    (run s t edits).1.ids.Nodup := by
  induction edits generalizing s t with
  | nil => exact hd
  | cons e edits ih => exact ih _ (e.2.nodup_applyOrKeep hd)

end Mutation

end Criteria
