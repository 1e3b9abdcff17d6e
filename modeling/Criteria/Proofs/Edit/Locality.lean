import Criteria.Proofs.Edit.Rejection
import Criteria.Proofs.Tree.Position

namespace Criteria

namespace Group

variable {t t' g g' : Group} {n m : Node} {b c : List Frame} {k : Frame} {i : Nat} {id : String}
  {ns : List Node} {p : Place}

theorem toNode_eq_within (hi : g.children[i]? = some m) :
    g.toNode = m.within [⟨g.header, g.children.take i, g.children.drop (i + 1)⟩] := by
  obtain ⟨hlt, rfl⟩ := List.getElem?_eq_some_iff.1 hi
  simp only [toNode, Node.within, Frame.fill, List.getElem_cons_drop, List.take_append_drop]

theorem group_of_within (hd : t.ids.Nodup) (ht : t.toNode = g.toNode.within c) :
    t.group g.id = .ok g :=
  group_ok_iff.2 ((find?_iff_has hd).2 ⟨⟨c, ht⟩, rfl⟩)

theorem within_unique (hd : t.ids.Nodup) (hn : t.toNode = n.within b) (hm : t.toNode = m.within c)
    (hid : n.id = m.id) : n = m ∧ b = c := by
  rw [ids, hn] at hd
  exact Node.within_inj (List.nodup_iff_count_le_one.1 hd n.id) (hn.symm.trans hm) hid

theorem id_ne_of_within (hd : t.ids.Nodup) (ht : t.toNode = n.within (c ++ [k])) : t.id ≠ n.id := by
  intro hid
  have hcontext : [] = c ++ [k] := (within_unique (b := []) hd rfl ht hid).2
  exact List.append_ne_nil_of_right_ne_nil c (List.cons_ne_nil k []) hcontext.symm

theorem place_of_within (hd : t.ids.Nodup) (ht : t.toNode = n.within (c ++ [k])) :
    t.place n.id = .ok ⟨k.header, k.before, n, k.after⟩ := by
  have hmem : n.id ∈ t.ids := Has.mem_ids ⟨_, ht⟩
  obtain ⟨p, hp⟩ := exists_place hd (id_ne_of_within hd ht) hmem
  obtain ⟨hid, -⟩ := place_ok hp
  obtain ⟨e, he, -⟩ := place_within hp
  rw [p.toNode_fill, ← Node.within_append] at he
  obtain ⟨rfl, hcontext⟩ := within_unique hd ht he hid.symm
  obtain ⟨-, hframe⟩ := List.append_inj' hcontext rfl
  obtain rfl : k = ⟨p.header, p.before, p.after⟩ := List.head_eq_of_cons_eq hframe
  exact hp

/-- Only one group has a child with the id of a node, and it has it at one index. -/
theorem child_unique (hd : t.ids.Nodup) (ht : t.toNode = n.within (c ++ [k]))
    (hg : t.toNode = g.toNode.within b) (hi : g.children[i]? = some m) (hid : m.id = n.id) :
    b = c ∧ g = ⟨k.header, k.before ++ n :: k.after⟩ ∧ i = k.before.length := by
  have hchild := toNode_eq_within hi
  rw [hchild, ← Node.within_append] at hg
  obtain ⟨rfl, hcontext⟩ := within_unique hd hg ht hid
  obtain ⟨rfl, hframe⟩ := List.append_inj' hcontext rfl
  obtain rfl := List.head_eq_of_cons_eq hframe
  refine ⟨rfl, toNode_inj.1 hchild, ?_⟩
  obtain ⟨hlt, -⟩ := List.getElem?_eq_some_iff.1 hi
  rw [List.length_take, Nat.min_eq_left (Nat.le_of_lt hlt)]

theorem rewriteGroup_of_within (hd : t.ids.Nodup) (ht : t.toNode = g.toNode.within c)
    {f : Group → Except EditError Group} (hf : f g = .ok g') :
    ∃ t', t.rewriteGroup g.id f = .ok t' ∧ t'.toNode = g'.toNode.within c := by
  refine ⟨t.replace g.id g', ?_, ?_⟩
  · rw [rewriteGroup, group_of_within hd ht]
    simp only [bind, Except.bind, hf]
    rfl
  · apply replace_within ht
    rw [ids, ht] at hd
    exact Node.not_mem_idsBefore hd

theorem replace_of_within (hd : t.ids.Nodup) (ht : t.toNode = n.within (c ++ [k]))
    (ns : List Node) :
    (t.replace k.header.id ⟨k.header, ns⟩).toNode = (Node.group k.header ns).within c := by
  rw [ids, ht, Node.within_append] at hd
  rw [Node.within_append] at ht
  exact replace_within (g := ⟨k.header, k.before ++ n :: k.after⟩) ht (Node.not_mem_idsBefore hd)

theorem rewriteSiblings_of_within (hd : t.ids.Nodup) (ht : t.toNode = n.within (c ++ [k]))
    {f : Place → Except EditError (List Node)} (hf : f ⟨k.header, k.before, n, k.after⟩ = .ok ns) :
    ∃ t', t.rewriteSiblings n.id f = .ok t' ∧ t'.toNode = (Node.group k.header ns).within c := by
  refine ⟨t.replace k.header.id ⟨k.header, ns⟩, ?_, ?_⟩
  · rw [rewriteSiblings, place_of_within hd ht]
    simp only [bind, Except.bind, hf]
    rfl
  · exact replace_of_within hd ht ns

end Group

/-- In a tree with distinct ids, an edit of a group that succeeds gives the tree with the edited
group in the place of the group, and an edit of the children around a node gives the tree with the
edited children in the one group that has the node for a child. The edit of children is told where
among them the node is, and that is the only index with the id of the node. At all other positions
nothing has changed, come or gone. -/
theorem edits_stay_in_place (t : Tree) (hd : t.ids.Nodup) :
    (∀ (g g' : Group) (c : List Frame) (f : Group → Except EditError Group),
      t.toNode = g.toNode.within c → f g = .ok g' →
      ∃ t', t.rewriteGroup g.id f = .ok t' ∧ t'.toNode = g'.toNode.within c ∧
        Node.SameElsewhere (Node.position c) t.toNode t'.toNode) ∧
    ∀ (n : Node) (c : List Frame) (k : Frame) (ns : List Node)
      (f : Place → Except EditError (List Node)),
      t.toNode = n.within (c ++ [k]) → f ⟨k.header, k.before, n, k.after⟩ = .ok ns →
      (∃ t', t.rewriteSiblings n.id f = .ok t' ∧ t'.toNode = (Node.group k.header ns).within c ∧
        Node.SameElsewhere (Node.position c) t.toNode t'.toNode) ∧
      ∀ (g : Group) (b : List Frame) (i : Nat) (m : Node),
        t.toNode = g.toNode.within b → g.children[i]? = some m → m.id = n.id →
        b = c ∧ g = ⟨k.header, k.before ++ n :: k.after⟩ ∧ i = k.before.length := by
  constructor
  · intro g g' c f ht hf
    obtain ⟨t', hok, ht'⟩ := Group.rewriteGroup_of_within hd ht hf
    refine ⟨t', hok, ht', ?_⟩
    rw [ht, ht']
    exact Node.sameElsewhere_within g.toNode g'.toNode c
  · intro n c k ns f ht hf
    obtain ⟨t', hok, ht'⟩ := Group.rewriteSiblings_of_within hd ht hf
    constructor
    · refine ⟨t', hok, ht', ?_⟩
      rw [ht, ht', Node.within_append]
      exact Node.sameElsewhere_within (k.fill n) (.group k.header ns) c
    · intro g b i m hg hi hid
      exact Group.child_unique hd ht hg hi hid

/-- A group between two conditions of another group is negated, and the second of three children of
it is left out. -/
theorem edits_stay_in_place_between :
    let a : Node := .condition ⟨"a", "x", .equals, .text "1", none⟩
    let b : Node := .condition ⟨"b", "y", .equals, .text "2", some .or⟩
    let z (id : String) : Node := .condition ⟨id, "z", .isEmpty, .null, none⟩
    let g : Group := ⟨⟨"g", .or, false, none⟩, [z "p", z "q", z "r"]⟩
    let t : Tree := ⟨⟨"t", .and, false, none⟩, [a, g.toNode, b]⟩
    let c : List Frame := [⟨t.header, [a], [b]⟩]
    t.ids.Nodup ∧
      (∃ t', t.rewriteGroup "g" (fun g => .ok g.toggleNegation) = .ok t' ∧
        t'.toNode = (Node.group ⟨"g", .or, true, none⟩ g.children).within c) ∧
      ∃ t', t.rewriteSiblings "q" (fun p => .ok (p.before ++ p.after)) = .ok t' ∧
        t'.toNode = (Node.group g.header [z "p", z "r"]).within c := by
  intro a b z g t c
  have hd : t.ids.Nodup := by decide
  obtain ⟨hgroup, hsiblings⟩ := edits_stay_in_place t hd
  obtain ⟨u, hu, hu', -⟩ := hgroup g g.toggleNegation c (fun g => .ok g.toggleNegation) rfl rfl
  obtain ⟨⟨v, hv, hv', -⟩, -⟩ := hsiblings (z "q") c ⟨g.header, [z "p"], [z "r"]⟩ [z "p", z "r"]
    (fun p => .ok (p.before ++ p.after)) rfl rfl
  exact ⟨hd, ⟨u, hu, hu'⟩, v, hv, hv'⟩

end Criteria
