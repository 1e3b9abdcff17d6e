import Criteria.Proofs.Edit.Move

namespace Criteria

/-- Whether a mutation puts a node into the tree. -/
def Mutation.Inserts : Mutation → Prop
  | addCondition .. | addGroup .. | cloneNode .. => True
  | _ => False

theorem Place.toNode_fill_append (p : Place) (xs ys : List Node) (n : Node) :
    (p.fill (xs ++ n :: ys)).toNode = n.within [⟨p.header, p.before ++ xs, ys ++ p.after⟩] := by
  simp only [fill, Group.toNode, Node.within, Frame.fill, List.append_assoc, List.cons_append]

namespace Group

variable {t t' : Tree} {n m : Node} {c : List Frame} {k : Frame} {id : String}

/-- Whether a node has come into a tree, and not as a part of another one: its id is new, but that
of the group that it is a child of is not. -/
def HasNewTop (t t' : Tree) (n : Node) : Prop :=
  ∃ c k, t'.toNode = n.within (c ++ [k]) ∧ n.id ∉ t.ids ∧ k.header.id ∈ t.ids

theorem within_of_append (h : t.editGroup id (append n) = .ok t') :
    ∃ c k, t'.toNode = n.within (c ++ [k]) ∧ t.toNode = Node.without c k := by
  obtain ⟨g, c, -, ht, ht'⟩ := editGroup_ok h
  refine ⟨c, ⟨g.header, g.children, []⟩, ?_, ?_⟩
  · rw [ht', Node.within_append]
    rfl
  · rw [ht, Node.without, List.append_nil]
    rfl

theorem exists_beside (n copy : Node) (after : Bool) :
    ∃ xs ys, xs ++ ys = [n] ∧ (if after then [n, copy] else [copy, n]) = xs ++ copy :: ys := by
  cases after with
  | true => exact ⟨[n], [], rfl, rfl⟩
  | false => exact ⟨[], [n], rfl, rfl⟩

theorem within_of_cloneNode {after : Bool} {s : IdSource} (hd : t.ids.Nodup)
    (h : (t.cloneNode id after s).1 = .ok t') :
    ∃ (n : Node) (c : List Frame) (k : Frame), (n.ids ++ t.ids).Nodup ∧
      t'.toNode = n.within (c ++ [k]) ∧ t.toNode = Node.without c k := by
  obtain ⟨p, hp, rfl⟩ := cloneNode_ok h
  obtain ⟨c, ht, ht'⟩ := place_within hp
  obtain ⟨xs, ys, hold, hnew⟩ := exists_beside p.node (p.node.copy (.ofTree s t)).1 after
  refine ⟨(p.node.copy (.ofTree s t)).1, c, ⟨p.header, p.before ++ xs, ys ++ p.after⟩,
    nodup_enter Claims.fresh_assigns hd s p.node, ?_, ?_⟩
  · rw [hnew, ht', p.toNode_fill_append, Node.within_append]
  · rw [ht, ← hold]
    simp only [Node.without, Place.fill, toNode, List.append_assoc]

/-- What is in a node that has come in is new as well, and has come in with it. -/
theorem hasNewTop_iff (hnew : (n.ids ++ t.ids).Nodup) (ht' : t'.toNode = n.within (c ++ [k]))
    (ht : t.toNode = Node.without c k) (hd' : t'.ids.Nodup) : t.HasNewTop t' m ↔ m = n := by
  have hperm : t'.ids.Perm (n.ids ++ t.ids) := by
    rw [ids, ids, ht', ht]
    exact Node.perm_ids_within n c k
  constructor
  · rintro ⟨d, j, hm, hnot, hin⟩
    have hmem : m.id ∈ n.ids :=
      (List.mem_append.1 (hperm.mem_iff.1 (Has.mem_ids ⟨_, hm⟩))).resolve_right hnot
    obtain ⟨l, b, rfl, hid⟩ := Node.exists_within_of_mem hmem
    rw [← Node.within_append] at ht'
    obtain ⟨rfl, hcontext⟩ := within_unique hd' hm ht' hid.symm
    rcases List.eq_nil_or_concat b with rfl | ⟨b, j', rfl⟩
    · rfl
    · -- the group that `m` is a child of would be new
      rw [List.concat_eq_append, ← List.append_assoc] at hcontext
      obtain ⟨-, hframe⟩ := List.append_inj' hcontext rfl
      obtain rfl := List.head_eq_of_cons_eq hframe
      have hgroup : j.header.id ∈ (m.within (b ++ [j])).ids := by
        rw [Node.within_append]
        exact Node.id_mem_ids_within (j.fill m) b
      rw [← List.concat_eq_append] at hgroup
      exact absurd hin (List.disjoint_of_nodup_append hnew hgroup)
  · rintro rfl
    refine ⟨c, k, ht', List.disjoint_of_nodup_append hnew m.id_mem_ids, ?_⟩
    rw [ids, ht]
    exact Node.id_mem_ids_within (.group k.header (k.before ++ k.after)) c

end Group

theorem Mutation.exists_inserted {m : Mutation} (hm : m.Inserts) {ctx : EditContext} {s : IdSource}
    {t t' : Tree} (hd : t.ids.Nodup) (h : (m.apply ctx s t).1 = .ok t') :
    ∃ (n : Node) (c : List Frame) (k : Frame), (n.ids ++ t.ids).Nodup ∧
      t'.toNode = n.within (c ++ [k]) ∧ t.toNode = Node.without c k := by
  cases m with
  | addCondition group condition =>
    obtain ⟨n, hn, hok⟩ := Group.addCondition_ok hd h
    obtain ⟨c, k, ht', ht⟩ := Group.within_of_append hok
    exact ⟨n, c, k, hn, ht', ht⟩
  | addGroup group child =>
    obtain ⟨n, hn, hok⟩ := Group.addGroup_ok hd h
    obtain ⟨c, k, ht', ht⟩ := Group.within_of_append hok
    exact ⟨n, c, k, hn, ht', ht⟩
  | cloneNode node after => exact Group.within_of_cloneNode hd h
  | updateCondition | updateGroup | deleteNode | moveNode | setCombinator | setEdge
  | toggleNegation => exact hm.elim

/-- In a tree with distinct ids, an edit that puts a node in brings one new node to a group that was
there, with the nodes in it and no others, and deleting it gives the tree as it was. -/
theorem deletion_undoes_insertion (ctx : EditContext) (s : IdSource) (t t' : Tree) (m : Mutation)
    (hd : t.ids.Nodup) (hm : m.Inserts) (h : (m.apply ctx s t).1 = .ok t') :
    ∃ n, (∀ l, t.HasNewTop t' l ↔ l = n) ∧ t'.ids.Perm (n.ids ++ t.ids) ∧
      ∀ (ctx' : EditContext) (s' : IdSource),
        (Mutation.deleteNode n.id).apply ctx' s' t' = (.ok t, s') := by
  obtain ⟨n, c, k, hnew, ht', ht⟩ := m.exists_inserted hm hd h
  have hd' : t'.ids.Nodup := m.nodup_apply hd h
  refine ⟨n, fun l => Group.hasNewTop_iff hnew ht' ht hd', ?_, ?_⟩
  · rw [Group.ids, Group.ids, ht', ht]
    exact Node.perm_ids_within n c k
  · intro ctx' s'
    exact congrArg (·, s') (Group.deleteNode_of_within hd' ht' ht)

/-- A group is added whose id is taken. It gets the next id, and the condition in it, which comes
without one, the id after that. -/
theorem deletion_undoes_insertion_supplied :
    let a (id : String) : Node := .condition ⟨id, "x", .isEmpty, .null, some .or⟩
    let g (id child : String) : Group := ⟨⟨id, .or, true, some .and⟩, [a child]⟩
    let t : Tree := ⟨⟨"r", .and, false, none⟩, [a "s-1"]⟩
    let t' : Tree := ⟨t.header, [a "s-1", (g "s-2" "s-3").toNode]⟩
    let ctx : EditContext := ⟨⟨[]⟩, ⟨2024, 1, 1, by decide, by decide, by decide⟩, none⟩
    let s : IdSource := .ofSeed "s"
    let m : Mutation := .addGroup "r" (some (g "s-1" ""))
    t.ids.Nodup ∧ m.Inserts ∧ (m.apply ctx s t).1 = .ok t' ∧
      (∀ l, t.HasNewTop t' l ↔ l = (g "s-2" "s-3").toNode) ∧
      (Mutation.deleteNode "s-2").apply ctx s t' = (.ok t, s) := by
  intro a g t t' ctx s m
  have hd : t.ids.Nodup := by decide
  have hok : (m.apply ctx s t).1 = .ok t' := rfl
  obtain ⟨n, htop, -, hdelete⟩ := deletion_undoes_insertion ctx s t t' m hd trivial hok
  have hnew : t.HasNewTop t' (g "s-2" "s-3").toNode :=
    ⟨[], ⟨t.header, [a "s-1"], []⟩, rfl, by decide, by decide⟩
  obtain rfl := (htop _).1 hnew
  exact ⟨hd, trivial, hok, htop, hdelete ctx s⟩

end Criteria
