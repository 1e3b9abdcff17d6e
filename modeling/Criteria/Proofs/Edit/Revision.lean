import Criteria.Proofs.Edit.Rejection
import Criteria.Proofs.Tree.Position

namespace Criteria

/-- A change of what nodes say. It cannot change their ids. -/
structure Revision where
  condition : Condition → Condition
  header : Header → Header
  id_condition : ∀ c, (condition c).id = c.id := by intro; rfl
  id_header : ∀ h, (header h).id = h.id := by intro; rfl

namespace Revision

/-- The change for a node but not for the ones in it. -/
def apply (r : Revision) : Node → Node
  | .condition c => .condition (r.condition c)
  | .group h children => .group (r.header h) children

/-- A change of what has one id only. -/
def onlyFor {α : Type} (key : α → String) (id : String) (f : α → α) (a : α) : α :=
  if key a = id then f a else a

variable {α : Type} {key : α → String} {id id' : String} {f f' : α → α}

theorem onlyFor_of_ne {a : α} (h : key a ≠ id) : onlyFor key id f a = a := if_neg h

theorem key_onlyFor (hf : ∀ a, key (f a) = key a) (a : α) : key (onlyFor key id f a) = key a := by
  rw [onlyFor]
  split
  · exact hf a
  · rfl

theorem onlyFor_comm (hne : id ≠ id') (hf : ∀ a, key (f a) = key a)
    (hf' : ∀ a, key (f' a) = key a) (a : α) :
    onlyFor key id' f' (onlyFor key id f a) = onlyFor key id f (onlyFor key id' f' a) := by
  by_cases h : key a = id
  · have hother : key a ≠ id' := fun h' => hne (h.symm.trans h')
    have hafter : key (onlyFor key id f a) ≠ id' := (key_onlyFor hf a).symm ▸ hother
    rw [onlyFor_of_ne hafter, onlyFor_of_ne hother]
  · have hafter : key (onlyFor key id' f' a) ≠ id := (key_onlyFor hf' a).symm ▸ h
    rw [onlyFor_of_ne hafter, onlyFor_of_ne h]

/-- The change for nodes with one id only. -/
def on (r : Revision) (id : String) : Revision where
  condition := onlyFor Condition.id id r.condition
  header := onlyFor Header.id id r.header
  id_condition := key_onlyFor r.id_condition
  id_header := key_onlyFor r.id_header

end Revision

namespace Node

mutual

/-- Changes a node and all the ones in it. -/
def revise (r : Revision) : Node → Node
  | .condition c => .condition (r.condition c)
  | .group h children => .group (r.header h) (reviseAll r children)

def reviseAll (r : Revision) : List Node → List Node
  | [] => []
  | n :: ns => n.revise r :: reviseAll r ns

end

variable {n : Node} {c : List Frame} {id id' : String} {r r' : Revision}

theorem reviseAll_append (r : Revision) (ns ms : List Node) :
    reviseAll r (ns ++ ms) = reviseAll r ns ++ reviseAll r ms := by
  induction ns with
  | nil => rfl
  | cons n ns ih => simp only [List.cons_append, reviseAll, ih]

mutual

theorem ids_revise (r : Revision) (n : Node) : (n.revise r).ids = n.ids := by
  cases n with
  | condition c => simp only [revise, ids, r.id_condition]
  | group h children => simp only [revise, ids, r.id_header, idsOf_reviseAll r children]

theorem idsOf_reviseAll (r : Revision) (ns : List Node) : idsOf (reviseAll r ns) = idsOf ns := by
  cases ns with
  | nil => rfl
  | cons n ns => simp only [reviseAll, idsOf, ids_revise r n, idsOf_reviseAll r ns]

end

mutual

theorem find?_revise (r : Revision) (n : Node) :
    (n.revise r).find? id = (n.find? id).map (revise r) := by
  cases n with
  | condition c =>
    simp only [revise, find?, r.id_condition]
    split <;> rfl
  | group h children =>
    simp only [revise, find?, r.id_header, findAmong?_reviseAll r children]
    split <;> rfl

theorem findAmong?_reviseAll (r : Revision) (ns : List Node) :
    findAmong? id (reviseAll r ns) = (findAmong? id ns).map (revise r) := by
  cases ns with
  | nil => rfl
  | cons n ns =>
    rw [reviseAll, findAmong?, findAmong?, find?_revise r n, findAmong?_reviseAll r ns,
      Option.map_or]

end

theorem isGroupAt?_revise (r : Revision) (n : Node) (id : String) :
    (n.revise r).isGroupAt? id = n.isGroupAt? id := by
  rw [isGroupAt?, isGroupAt?, find?_revise, Option.map_map]
  congr 1
  funext m
  cases m <;> rfl

mutual

theorem revise_on_of_not_mem (n : Node) (h : id ∉ n.ids) : n.revise (r.on id) = n := by
  cases n with
  | condition c =>
    simp only [ids, List.mem_singleton] at h
    rw [revise, condition.injEq]
    exact Revision.onlyFor_of_ne (Ne.symm h)
  | group k children =>
    simp only [ids, List.mem_cons, not_or] at h
    rw [revise, group.injEq]
    exact ⟨Revision.onlyFor_of_ne (Ne.symm h.1), reviseAll_on_of_not_mem children h.2⟩

theorem reviseAll_on_of_not_mem (ns : List Node) (h : id ∉ idsOf ns) :
    reviseAll (r.on id) ns = ns := by
  cases ns with
  | nil => rfl
  | cons n ns =>
    simp only [idsOf, List.mem_append, not_or] at h
    rw [reviseAll, revise_on_of_not_mem n h.1, reviseAll_on_of_not_mem ns h.2]

end

theorem revise_on_id (hd : n.ids.Nodup) : n.revise (r.on n.id) = r.apply n := by
  cases n with
  | condition d =>
    rw [revise, Revision.apply, condition.injEq]
    exact if_pos rfl
  | group h children =>
    have hnot : h.id ∉ idsOf children := (List.nodup_cons.1 hd).1
    rw [revise, Revision.apply, group.injEq]
    exact ⟨if_pos rfl, reviseAll_on_of_not_mem children hnot⟩

theorem revise_within_of_not_mem (hbefore : id ∉ idsBefore c) (hafter : id ∉ idsAfter c) :
    (n.within c).revise (r.on id) = (n.revise (r.on id)).within c := by
  induction c with
  | nil => rfl
  | cons f c ih =>
    simp only [idsBefore, List.cons_append, List.mem_cons, List.mem_append, not_or] at hbefore
    simp only [idsAfter, List.mem_append, not_or] at hafter
    have hheader : (r.on id).header f.header = f.header :=
      Revision.onlyFor_of_ne (Ne.symm hbefore.1)
    rw [within, within, Frame.fill, Frame.fill, revise, hheader, reviseAll_append, reviseAll,
      reviseAll_on_of_not_mem f.before hbefore.2.1, reviseAll_on_of_not_mem f.after hafter.2,
      ih hbefore.2.2 hafter.1]

/-- If no id occurs twice, changing the nodes with the id of a node changes just that node. -/
theorem revise_within (hd : (n.within c).ids.Nodup) :
    (n.within c).revise (r.on n.id) = (r.apply n).within c := by
  have hids : (idsBefore c ++ n.ids ++ idsAfter c).Nodup := n.ids_within c ▸ hd
  have hafter : n.id ∉ idsAfter c :=
    List.disjoint_of_nodup_append hids (List.mem_append_right _ n.id_mem_ids)
  rw [revise_within_of_not_mem (not_mem_idsBefore hd) hafter,
    revise_on_id hids.of_append_left.of_append_right]

mutual

theorem revise_on_comm (hne : id ≠ id') (n : Node) :
    (n.revise (r.on id)).revise (r'.on id') = (n.revise (r'.on id')).revise (r.on id) := by
  cases n with
  | condition c =>
    rw [revise, revise, revise, revise, condition.injEq]
    exact Revision.onlyFor_comm hne r.id_condition r'.id_condition c
  | group h children =>
    rw [revise, revise, revise, revise, group.injEq]
    exact ⟨Revision.onlyFor_comm hne r.id_header r'.id_header h, reviseAll_on_comm hne children⟩

theorem reviseAll_on_comm (hne : id ≠ id') (ns : List Node) :
    reviseAll (r'.on id') (reviseAll (r.on id) ns)
      = reviseAll (r.on id) (reviseAll (r'.on id') ns) := by
  cases ns with
  | nil => rfl
  | cons n ns =>
    rw [reviseAll, reviseAll, reviseAll, reviseAll, revise_on_comm hne n, reviseAll_on_comm hne ns]

end

end Node

namespace Group

variable {t t' : Tree} {id : String} {r : Revision} {e : EditError}

def revise (r : Revision) (t : Tree) : Tree := ⟨r.header t.header, Node.reviseAll r t.children⟩

theorem toNode_revise (r : Revision) (t : Tree) : (t.revise r).toNode = t.toNode.revise r := rfl

theorem ids_revise (r : Revision) (t : Tree) : (t.revise r).ids = t.ids := t.toNode.ids_revise r

/-- Whether a tree becomes another one by a change of a node with an id in its place. -/
def IsRevised (t : Tree) (r : Revision) (id : String) (t' : Tree) : Prop :=
  ∃ n c, n.id = id ∧ t.toNode = n.within c ∧ t'.toNode = (r.apply n).within c

theorem isRevised_editGroup {f : Group → Group} (hf : ∀ g, (f g).toNode = r.apply g.toNode)
    (h : t.editGroup id f = .ok t') : t.IsRevised r id t' := by
  obtain ⟨g, c, hg, ht, ht'⟩ := editGroup_ok h
  refine ⟨g.toNode, c, id_of_group_ok hg, ht, ?_⟩
  rw [ht', hf]

theorem isRevised_editPlace {f : Place → List Node} (hf : ∀ p, f p = [r.apply p.node])
    (h : t.editPlace id f = .ok t') : t.IsRevised r id t' := by
  obtain ⟨p, hp, rfl⟩ := editPlace_ok h
  obtain ⟨c, ht, ht'⟩ := place_within hp
  refine ⟨p.node, c ++ [⟨p.header, p.before, p.after⟩], (place_ok hp).1, ?_, ?_⟩
  · rw [ht, p.toNode_fill, Node.within_append]
  · rw [ht', hf, p.toNode_fill, Node.within_append]

theorem isGroupAt?_eq_none : t.toNode.isGroupAt? id = none ↔ id ∉ t.ids := by
  rw [Node.isGroupAt?, Option.map_eq_none_iff, Node.find?_eq_none, ids]

theorem isGroupAt?_eq_true (hd : t.ids.Nodup) :
    t.toNode.isGroupAt? id = some true ↔ ∃ g : Group, t.Has g.toNode ∧ g.id = id := by
  rw [← group_ok_iff_isGroupAt?]
  refine exists_congr fun g => ?_
  rw [group_ok_iff]
  exact find?_iff_has hd

theorem isGroupAt?_eq_false (hd : t.ids.Nodup) :
    t.toNode.isGroupAt? id = some false ↔ ∃ c, t.Has (.condition c) ∧ c.id = id := by
  rw [Node.isGroupAt?, Option.map_eq_some_iff]
  constructor
  · rintro ⟨n, hn, hgroup⟩
    cases n with
    | condition c => exact ⟨c, (find?_iff_has hd).1 hn⟩
    | group h children => cases hgroup
  · rintro ⟨c, hc⟩
    exact ⟨.condition c, (find?_iff_has hd).2 hc, rfl⟩

theorem noGroup_iff (hd : t.ids.Nodup) : t.NoGroup id e ↔
    (t.toNode.isGroupAt? id = some false ∧ e = .notAGroup id) ∨
      (t.toNode.isGroupAt? id = none ∧ e = .groupNotFound id) := by
  rw [isGroupAt?_eq_false hd, isGroupAt?_eq_none]
  constructor
  · rintro (⟨hc, hid⟩ | habsent)
    · exact .inl ⟨⟨_, hc, hid⟩, rfl⟩
    · exact .inr ⟨habsent, rfl⟩
  · rintro (⟨⟨c, hc, hid⟩, rfl⟩ | ⟨habsent, rfl⟩)
    · exact .condition hc hid
    · exact .absent habsent

theorem noCondition_iff (hd : t.ids.Nodup) : t.NoCondition id e ↔
    (t.toNode.isGroupAt? id = some true ∧ e = .notACondition id) ∨
      (t.toNode.isGroupAt? id = none ∧ e = .nodeNotFound id) := by
  rw [isGroupAt?_eq_true hd, isGroupAt?_eq_none]
  constructor
  · rintro (⟨hg, hid⟩ | habsent)
    · exact .inl ⟨⟨_, hg, hid⟩, rfl⟩
    · exact .inr ⟨habsent, rfl⟩
  · rintro (⟨⟨g, hg, hid⟩, rfl⟩ | ⟨habsent, rfl⟩)
    · exact .group hg hid
    · exact .absent habsent

theorem noPlace_iff : t.NoPlace id e ↔
    (t.id = id ∧ e = .root) ∨ (id ∉ t.ids ∧ e = .nodeNotFound id) := by
  constructor
  · rintro (hroot | habsent)
    · exact .inl ⟨hroot, rfl⟩
    · exact .inr ⟨habsent, rfl⟩
  · rintro (⟨hroot, rfl⟩ | ⟨habsent, rfl⟩)
    · exact .root hroot
    · exact .absent habsent

end Group

namespace Mutation

variable {m : Mutation} {ctx : EditContext} {s : IdSource} {t t' : Tree} {id : String}
  {r r' : Revision} {e : EditError}

/-- For an edit that changes what one node says: the id of the node, and the change. -/
def revision? : Mutation → Option (String × Revision)
  | updateCondition node patch => some (node, { condition := patch.apply, header := fun h => h })
  | updateGroup group patch =>
    some (group, { condition := fun c => c, header := fun h => (patch.apply ⟨h, []⟩).header })
  | setCombinator group combinator =>
    some (group, { condition := fun c => c, header := fun h => { h with combinator } })
  | setEdge node edge =>
    some (node, { condition := fun c => { c with edge }, header := fun h => { h with edge } })
  | toggleNegation group =>
    some (group, { condition := fun c => c, header := fun h => { h with negated := !h.negated } })
  | addCondition .. | addGroup .. | deleteNode .. | cloneNode .. | moveNode .. => none

theorem isRevised_apply (hm : m.revision? = some (id, r)) (h : (m.apply ctx s t).1 = .ok t') :
    t.IsRevised r id t' := by
  cases m with
  | updateCondition node patch =>
    obtain ⟨rfl, rfl⟩ := Prod.mk.inj (Option.some.inj hm)
    simp only [Mutation.apply, Group.updateCondition] at h
    split at h
    · apply Group.isRevised_editPlace _ h
      intro p
      cases p.node <;> rfl
    · cases h
  | setEdge node edge =>
    obtain ⟨rfl, rfl⟩ := Prod.mk.inj (Option.some.inj hm)
    apply Group.isRevised_editPlace _ h
    intro p
    cases p.node <;> rfl
  | updateGroup group _ | setCombinator group _ | toggleNegation group =>
    obtain ⟨rfl, rfl⟩ := Prod.mk.inj (Option.some.inj hm)
    exact Group.isRevised_editGroup (fun g => rfl) h
  | addCondition | addGroup | deleteNode | cloneNode | moveNode => cases hm

/-- Whether an edit that changes what one node says is rejected, and why, is the same after a change
of any nodes. -/
theorem rejected_revise (hm : m.revision? = some (id, r)) (hd : t.ids.Nodup) :
    m.Rejected ctx (t.revise r') e ↔ m.Rejected ctx t e := by
  have hd' : (t.revise r').ids.Nodup := by
    rw [Group.ids_revise]
    exact hd
  have hkinds (id : String) : (t.revise r').toNode.isGroupAt? id = t.toNode.isGroupAt? id :=
    t.toNode.isGroupAt?_revise r' id
  have hroot : (t.revise r').id = t.id := r'.id_header t.header
  cases m with
  | updateCondition node patch =>
    rw [Rejected, Rejected, Group.noCondition_iff hd, Group.noCondition_iff hd', hkinds]
  | updateGroup group _ | setCombinator group _ | toggleNegation group =>
    rw [Rejected, Rejected, Group.noGroup_iff hd, Group.noGroup_iff hd', hkinds]
  | setEdge node edge =>
    rw [Rejected, Rejected, Group.noPlace_iff, Group.noPlace_iff, hroot, Group.ids_revise]
  | addCondition | addGroup | deleteNode | cloneNode | moveNode => cases hm

theorem apply_of_revision (hm : m.revision? = some (id, r)) (hd : t.ids.Nodup)
    (h : (m.apply ctx s t).1 = .ok t') : t' = t.revise (r.on id) := by
  obtain ⟨n, c, rfl, ht, ht'⟩ := isRevised_apply hm h
  rw [← Group.toNode_inj, Group.toNode_revise, ht', ht, Node.revise_within]
  rw [← ht]
  exact hd

theorem source_of_revision (hm : m.revision? = some (id, r)) : (m.apply ctx s t).2 = s := by
  cases m with
  | updateCondition | updateGroup | setCombinator | setEdge | toggleNegation => rfl
  | addCondition | addGroup | deleteNode | cloneNode | moveNode => cases hm

end Mutation

end Criteria
