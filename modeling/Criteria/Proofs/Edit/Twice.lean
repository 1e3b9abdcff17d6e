import Criteria.Proofs.Edit.Revision

namespace Criteria

namespace Revision

variable (r : Revision) (n : Node)

theorem id_apply : (r.apply n).id = n.id := by
  cases n with
  | condition c => exact r.id_condition c
  | group h children => exact r.id_header h

theorem ids_apply : (r.apply n).ids = n.ids := by
  cases n with
  | condition c => simp only [apply, Node.ids, r.id_condition]
  | group h children => simp only [apply, Node.ids, r.id_header]

theorem isGroupAt?_apply (id : String) : (r.apply n).isGroupAt? id = n.isGroupAt? id := by
  cases n with
  | condition c =>
    simp only [apply, Node.isGroupAt?, Node.find?, r.id_condition]
    split <;> rfl
  | group h children =>
    simp only [apply, Node.isGroupAt?, Node.find?, r.id_header]
    split <;> rfl

end Revision

theorem Place.among?_fill {k : Header} {id : String} {n : Node} {p : Place} {before ns : List Node}
    (h : among? k id before ns = some p) (hn : n.id = id) :
    ∃ ms, p.before = before.reverse ++ ms ∧
      among? k id before (ms ++ n :: p.after) = some { p with node := n } := by
  induction ns generalizing before with
  | nil => cases h
  | cons m ns ih =>
    simp only [among?] at h
    split at h
    · cases h
      refine ⟨[], (List.append_nil _).symm, ?_⟩
      rw [List.nil_append, among?, if_pos hn]
    · next hm =>
      obtain ⟨ms, hbefore, hms⟩ := ih h
      refine ⟨m :: ms, ?_, ?_⟩
      · rw [hbefore, List.reverse_cons, List.append_assoc, List.singleton_append]
      · rw [List.cons_append, among?, if_neg hm, hms]

namespace Group

variable {t t' t'' g new new' : Group} {id : String} {r : Revision} {p : Place} {n : Node}

theorem group_replace (h : t.group id = .ok g) (hid : new.id = id) :
    (t.replace id new).group id = .ok new := by
  obtain ⟨c, rfl, ht, hc⟩ := group_within h
  have hfind : new.toNode.find? new.id = some new.toNode := new.toNode.find?_id
  rw [group_ok_iff, replace_within ht hc]
  exact Node.find?_within hc (hid ▸ hfind)

theorem replace_replace (h : t.group id = .ok g) (hid : new.id = id) :
    (t.replace id new).replace id new' = t.replace id new' := by
  obtain ⟨c, rfl, ht, hc⟩ := group_within h
  have hput : (t.replace g.id new).toNode = new.toNode.within c := replace_within ht hc
  rw [← toNode_inj, replace_within ht hc, ← hid]
  rw [← hid] at hput hc
  exact replace_within hput hc

theorem place?_fill (h : g.place? id = some p) (hn : n.id = id) :
    (p.fill [n]).place? id = some { p with node := n } := by
  obtain ⟨ms, hbefore, hms⟩ := Place.among?_fill h hn
  obtain ⟨hheader, -⟩ := Place.among?_eq_some h
  obtain ⟨header, before, node, after⟩ := p
  obtain rfl : header = g.header := hheader
  obtain rfl : before = ms := hbefore
  rw [place?, Place.fill, List.append_assoc]
  exact hms

theorem parent?_fill (h : n.id = p.node.id) :
    ((p.fill [n]).toNode.parent? p.node.id).map (·.id) =
      ((p.fill [p.node]).toNode.parent? p.node.id).map (·.id) := by
  have hany (m : Node) (hm : m.id = p.node.id) :
      (p.before ++ [m] ++ p.after).any (·.id = p.node.id) = true := by
    simp [hm]
  simp only [Place.fill, toNode, Node.parent?, hany n h, hany p.node rfl, if_true, Option.map_some]
  rfl

/-- The parent of the node is looked for before its id, so it is the id of the parent that has to
be the same. -/
theorem place_replace (h : t.place id = .ok p) (hn : n.id = id) :
    (t.replace p.header.id (p.fill [n])).place id = .ok { p with node := n } := by
  obtain ⟨rfl, hfill⟩ := place_ok h
  obtain ⟨hroot, parent, g, hparent, hg, hp⟩ := place_eq_ok.1 h
  have hheader : p.header.id = parent.id := by
    rw [← id_of_group_ok hg, (place?_eq_some hp).2]
    rfl
  obtain ⟨c, ht, hput⟩ := place_within h
  have hid : (p.fill [n]).toNode.id = (p.fill [p.node]).toNode.id := rfl
  have hroot' : (t.replace p.header.id (p.fill [n])).id = t.id := by
    have hwithin := Node.id_within_congr hid c
    rwa [← hput, ← ht] at hwithin
  have hsame : ((t.replace p.header.id (p.fill [n])).parent? p.node.id).map (·.id) =
      (t.parent? p.node.id).map (·.id) := by
    rw [parent?, parent?, hput, ht]
    exact Node.parent?_within_congr hid (parent?_fill hn) c
  rw [hparent, Option.map_some, Option.map_eq_some_iff] at hsame
  obtain ⟨parent', hparent', hsame⟩ := hsame
  rw [place_eq_ok, hroot']
  refine ⟨hroot, parent', p.fill [n], hparent', ?_, place?_fill hp hn⟩
  rw [hsame, ← hheader]
  exact group_replace hfill rfl

/-- Whether trees differ in one node in its place, which has been changed for the second tree and
changed again for the third one. -/
def AreRevisions (r : Revision) (t t' t'' : Tree) : Prop :=
  ∃ n c, t.toNode = n.within c ∧ t'.toNode = (r.apply n).within c ∧
    t''.toNode = (r.apply (r.apply n)).within c

theorem AreRevisions.eq_second (h : AreRevisions r t t' t'')
    (hr : ∀ n, r.apply (r.apply n) = r.apply n) : t'' = t' := by
  obtain ⟨n, c, -, ht', ht''⟩ := h
  rw [← toNode_inj, ht', ht'', hr]

theorem AreRevisions.eq_first (h : AreRevisions r t t' t'') (hr : ∀ n, r.apply (r.apply n) = n) :
    t'' = t := by
  obtain ⟨n, c, ht, -, ht''⟩ := h
  rw [← toNode_inj, ht, ht'', hr]

theorem editGroup_again {f : Group → Group} (hf : ∀ g, (f g).toNode = r.apply g.toNode)
    (h : t.editGroup id f = .ok t') :
    ∃ t'', t'.editGroup id f = .ok t'' ∧ AreRevisions r t t' t'' := by
  obtain ⟨g, hg, rfl⟩ := editGroup_eq_ok h
  obtain ⟨c, rfl, ht, hc⟩ := group_within hg
  have hid : (f g).id = g.id := by
    have hnode := congrArg Node.id (hf g)
    rwa [r.id_apply] at hnode
  refine ⟨t.replace g.id (f (f g)), ?_, g.toNode, c, ht, ?_, ?_⟩
  · rw [editGroup_eq, group_replace hg hid, Except.map, replace_replace hg hid]
  · rw [replace_within ht hc, hf]
  · rw [replace_within ht hc, hf, hf]

theorem editPlace_again {f : Place → List Node} (hf : ∀ p, f p = [r.apply p.node])
    (h : t.editPlace id f = .ok t') :
    ∃ t'', t'.editPlace id f = .ok t'' ∧ AreRevisions r t t' t'' := by
  obtain ⟨p, hp, rfl⟩ := editPlace_ok h
  obtain ⟨hid, hfill⟩ := place_ok hp
  obtain ⟨c, ht, hput⟩ := place_within hp
  have hnode : (r.apply p.node).id = id := (r.id_apply p.node).trans hid
  refine ⟨t.replace p.header.id (p.fill [r.apply (r.apply p.node)]), ?_, p.node,
    c ++ [⟨p.header, p.before, p.after⟩], ?_, ?_, ?_⟩
  · rw [editPlace_eq, hf, place_replace hp hnode, Except.map, hf]
    exact congrArg Except.ok (replace_replace hfill rfl)
  · rw [ht, p.toNode_fill, Node.within_append]
  · rw [hf, hput, p.toNode_fill, Node.within_append]
  · rw [hput, p.toNode_fill, Node.within_append]

theorem isSome_findCondition? (hroot : t.id ≠ id) :
    (t.findCondition? id).isSome = true ↔ t.toNode.isGroupAt? id = some false := by
  rw [findCondition?, Node.isGroupAt?, find?_toNode, if_neg hroot]
  cases t.find? id with
  | none => simp
  | some n => cases n <;> simp [Node.toCondition?, Node.toGroup?]

namespace IsRevised

theorem id_eq (h : t.IsRevised r id t') : t'.id = t.id := by
  obtain ⟨n, c, -, ht, ht'⟩ := h
  have hroot := Node.id_within_congr (r.id_apply n) c
  rwa [← ht, ← ht'] at hroot

theorem ids_eq (h : t.IsRevised r id t') : t'.ids = t.ids := by
  obtain ⟨n, c, -, ht, ht'⟩ := h
  rw [ids, ids, ht, ht', Node.ids_within, Node.ids_within, r.ids_apply]

theorem isGroupAt?_eq (h : t.IsRevised r id t') (other : String) :
    t'.toNode.isGroupAt? other = t.toNode.isGroupAt? other := by
  obtain ⟨n, c, -, ht, ht'⟩ := h
  rw [ht, ht']
  exact Node.isGroupAt?_within_congr (r.isGroupAt?_apply n other) c

end IsRevised

end Group

theorem getD_getD {α : Type} (o : Option α) (a : α) : o.getD (o.getD a) = o.getD a := by
  cases o <;> rfl

theorem ConditionPatch.apply_apply (p : ConditionPatch) (c : Condition) :
    p.apply (p.apply c) = p.apply c := by
  simp only [apply, getD_getD, ← Option.or_assoc, Option.or_self]

theorem GroupPatch.apply_apply (p : GroupPatch) (g : Group) : p.apply (p.apply g) = p.apply g := by
  simp only [apply, getD_getD, ← Option.or_assoc, Option.or_self]

namespace Mutation

variable {m : Mutation} {ctx : EditContext} {s : IdSource} {t t' : Tree} {id group : String}
  {r : Revision}

/-- An edit that changes what one node says can be made again, and changes the same node. -/
theorem apply_again (hm : m.revision? = some (id, r)) (h : (m.apply ctx s t).1 = .ok t')
    (ctx' : EditContext) (s' : IdSource) :
    ∃ t'', (m.apply ctx' s' t').1 = .ok t'' ∧ Group.AreRevisions r t t' t'' := by
  have hrevised := isRevised_apply hm h
  cases m with
  | updateCondition node patch =>
    obtain ⟨rfl, rfl⟩ := Prod.mk.inj (Option.some.inj hm)
    simp only [Mutation.apply, Group.updateCondition] at h ⊢
    split at h
    · next hfind =>
      obtain ⟨p, hp, -⟩ := Group.editPlace_ok h
      obtain ⟨hroot, -⟩ := Group.place_eq_ok.1 hp
      have hroot' : t'.id ≠ node := hrevised.id_eq ▸ hroot
      rw [Group.isSome_findCondition? hroot, ← hrevised.isGroupAt?_eq,
        ← Group.isSome_findCondition? hroot'] at hfind
      rw [if_pos hfind]
      apply Group.editPlace_again _ h
      intro p
      cases p.node <;> rfl
    · cases h
  | setEdge node edge =>
    obtain ⟨rfl, rfl⟩ := Prod.mk.inj (Option.some.inj hm)
    apply Group.editPlace_again _ h
    intro p
    cases p.node <;> rfl
  | updateGroup group _ | setCombinator group _ | toggleNegation group =>
    obtain ⟨rfl, rfl⟩ := Prod.mk.inj (Option.some.inj hm)
    exact Group.editGroup_again (fun g => rfl) h
  | addCondition | addGroup | deleteNode | cloneNode | moveNode => cases hm

theorem revision_settles (hm : m.revision? = some (id, r))
    (htoggle : ∀ group, m ≠ .toggleNegation group) (n : Node) :
    r.apply (r.apply n) = r.apply n := by
  cases m with
  | updateCondition node patch =>
    obtain ⟨rfl, rfl⟩ := Prod.mk.inj (Option.some.inj hm)
    cases n with
    | condition c => exact congrArg Node.condition (patch.apply_apply c)
    | group h children => rfl
  | updateGroup group patch =>
    obtain ⟨rfl, rfl⟩ := Prod.mk.inj (Option.some.inj hm)
    cases n with
    | condition c => rfl
    | group h children => exact congrArg Group.toNode (patch.apply_apply ⟨h, children⟩)
  | setCombinator group combinator | setEdge node edge =>
    obtain ⟨rfl, rfl⟩ := Prod.mk.inj (Option.some.inj hm)
    cases n <;> rfl
  | toggleNegation group => exact absurd rfl (htoggle group)
  | addCondition | addGroup | deleteNode | cloneNode | moveNode => cases hm

theorem toggle_reverts (hm : (toggleNegation group).revision? = some (id, r)) (n : Node) :
    r.apply (r.apply n) = n := by
  obtain ⟨rfl, rfl⟩ := Prod.mk.inj (Option.some.inj hm)
  cases n with
  | condition c => rfl
  | group h children => simp [Revision.apply]

end Mutation

/-- In a tree with any ids, an edit that changes what one node says leaves all ids as they are, and
it can be made again. The second time it changes nothing, but for turning a negation round, which
gives back the tree that there was at first. -/
theorem edits_made_twice (c₁ c₂ : EditContext) (s₁ s₂ : IdSource) (t t' : Tree) (m : Mutation)
    (id : String) (r : Revision) (hm : m.revision? = some (id, r))
    (h : (m.apply c₁ s₁ t).1 = .ok t') :
    t.IsRevised r id t' ∧ t'.ids = t.ids ∧
      ((∀ group, m ≠ .toggleNegation group) → (m.apply c₂ s₂ t').1 = .ok t') ∧
      ∀ group, m = .toggleNegation group → (m.apply c₂ s₂ t').1 = .ok t := by
  have hrevised := Mutation.isRevised_apply hm h
  obtain ⟨t'', hagain, hrevisions⟩ := Mutation.apply_again hm h c₂ s₂
  refine ⟨hrevised, hrevised.ids_eq, fun htoggle => ?_, ?_⟩
  · rw [hagain, hrevisions.eq_second (Mutation.revision_settles hm htoggle)]
  · rintro group rfl
    rw [hagain, hrevisions.eq_first (Mutation.toggle_reverts hm)]

/-- Three conditions have one id, and two groups. The condition that is found first is not the one
that is changed. -/
theorem edits_made_twice_repeated :
    let a (field : String) (edge : Option Combinator) : Node :=
      .condition ⟨"a", field, .isEmpty, .null, edge⟩
    let g (negated : Bool) : Node := .group ⟨"g", .or, negated, none⟩ [a "x" none]
    let tree (negated : Bool) (edge : Option Combinator) : Tree :=
      ⟨⟨"t", .and, false, none⟩, [g negated, a "y" edge, g false]⟩
    let ctx : EditContext := ⟨⟨[]⟩, ⟨2024, 1, 1, by decide, by decide, by decide⟩, none⟩
    let s : IdSource := .ofSeed "s"
    let m : Mutation := .updateCondition "a" { edge := some .or }
    let toggle : Mutation := .toggleNegation "g"
    (m.apply ctx s (tree false none)).1 = .ok (tree false (some .or)) ∧
      (m.apply ctx s (tree false (some .or))).1 = .ok (tree false (some .or)) ∧
      (toggle.apply ctx s (tree false none)).1 = .ok (tree true none) ∧
      (toggle.apply ctx s (tree true none)).1 = .ok (tree false none) := by
  intro a g tree ctx s m toggle
  have hm : (m.apply ctx s (tree false none)).1 = .ok (tree false (some .or)) := rfl
  have htoggle : (toggle.apply ctx s (tree false none)).1 = .ok (tree true none) := rfl
  obtain ⟨-, -, hagain, -⟩ := edits_made_twice ctx ctx s s _ _ m "a" _ rfl hm
  obtain ⟨-, -, -, hback⟩ := edits_made_twice ctx ctx s s _ _ toggle "g" _ rfl htoggle
  exact ⟨hm, hagain (fun group => nofun), htoggle, hback "g" rfl⟩

end Criteria
