import Criteria.Proofs.Edit.Locality
import Criteria.Proofs.Tree.Entry

namespace Criteria

namespace Group

variable {t t' rest g : Group} {n : Node} {c d : List Frame} {k : Frame} {i : Nat}
  {id target : String} {p : Place}

/-- What a tree says but for its shape. -/
def contents (t : Tree) : List Node := t.toNode.contents

def groupIds (t : Tree) : List String := t.toNode.groupIds

theorem toNode_insert (i : Nat) (n : Node) (g : Group) :
    (insert i n g).toNode = n.within [⟨g.header, g.children.take i, g.children.drop i⟩] := rfl

theorem without_insert (i : Nat) (g : Group) (d : List Frame) :
    Node.without d ⟨g.header, g.children.take i, g.children.drop i⟩ = g.toNode.within d := by
  rw [Node.without, List.take_append_drop]
  rfl

theorem deleteNode_ok (h : t.deleteNode id = .ok t') :
    ∃ p c, t.place id = .ok p ∧ t.toNode = p.node.within (c ++ [⟨p.header, p.before, p.after⟩]) ∧
      t'.toNode = Node.without c ⟨p.header, p.before, p.after⟩ := by
  obtain ⟨p, hp, rfl⟩ := editPlace_ok h
  obtain ⟨c, ht, ht'⟩ := place_within hp
  refine ⟨p, c, hp, ?_, ?_⟩
  · rw [ht, p.toNode_fill, Node.within_append]
  · rw [ht', Place.fill, List.append_nil]
    rfl

/-- A move, in a tree with any ids. -/
theorem moveNode_within (h : t.moveNode id target i = .ok t') :
    ∃ (n : Node) (p : Place) (rest : Tree) (c : List Frame) (g : Group) (d : List Frame),
      t.find? id = some n ∧ t.place id = .ok p ∧
      t.toNode = p.node.within (c ++ [⟨p.header, p.before, p.after⟩]) ∧
      rest.toNode = Node.without c ⟨p.header, p.before, p.after⟩ ∧ rest.toNode = g.toNode.within d ∧
      t'.toNode = n.within (d ++ [⟨g.header, g.children.take i, g.children.drop i⟩]) := by
  obtain ⟨n, rest, hn, hdel, hput⟩ := moveNode_ok h
  obtain ⟨p, c, hp, ht, hrest⟩ := deleteNode_ok hdel
  obtain ⟨g, d, -, hg, ht'⟩ := editGroup_ok hput
  refine ⟨n, p, rest, c, g, d, hn, hp, ht, hrest, hg, ?_⟩
  rw [ht', toNode_insert, Node.within_append]

theorem perm_contents_moveNode (h : t.moveNode id target i = .ok t') :
    ∃ n p, t.find? id = some n ∧ t.place id = .ok p ∧
      (t'.contents ++ p.node.contents).Perm (t.contents ++ n.contents) := by
  obtain ⟨n, p, rest, c, g, d, hn, hp, ht, hrest, hg, ht'⟩ := moveNode_within h
  refine ⟨n, p, hn, hp, ?_⟩
  have hout : t.contents.Perm (p.node.contents ++ rest.contents) := by
    rw [contents, contents, ht, hrest]
    exact Node.perm_contents ..
  have hin : t'.contents.Perm (n.contents ++ rest.contents) := by
    rw [contents, contents, ht', hg, ← without_insert i]
    exact Node.perm_contents ..
  have hswap : (n.contents ++ rest.contents ++ p.node.contents).Perm
      (p.node.contents ++ rest.contents ++ n.contents) := by
    rw [List.append_assoc p.node.contents]
    exact List.perm_append_comm.trans (List.perm_append_comm.append_left _)
  exact (hin.append_right _).trans (hswap.trans (hout.symm.append_right _))

theorem conditions_eq (t : Tree) : t.conditions = t.contents.filterMap Node.toCondition? :=
  Node.conditions_eq t.toNode

theorem find?_of_place_of_count (hcount : t.ids.count id ≤ 1) (hn : t.toNode.find? id = some n)
    (hp : t.place id = .ok p) : p.node = n := by
  obtain ⟨hid, -⟩ := place_ok hp
  obtain ⟨c, ht, -⟩ := place_within hp
  obtain ⟨rfl, d, ht', -⟩ := Node.exists_within_of_find? _ hn
  rw [p.toNode_fill, ← Node.within_append] at ht
  rw [ids, ht, ← hid] at hcount
  exact (Node.within_inj hcount (ht.symm.trans ht') hid).1

theorem nodup_without (hd : t.ids.Nodup) (ht : t.toNode = n.within (c ++ [k])) :
    (n.ids ++ (Node.without c k).ids).Nodup := by
  rw [ids, ht] at hd
  exact (Node.perm_ids_within n c k).nodup_iff.1 hd

theorem deleteNode_of_within (hd : t.ids.Nodup) (ht : t.toNode = n.within (c ++ [k]))
    (hrest : rest.toNode = Node.without c k) : t.deleteNode n.id = .ok rest := by
  obtain ⟨t', hok, ht'⟩ := rewriteSiblings_of_within hd ht
    (f := fun p => .ok (p.before ++ [] ++ p.after)) rfl
  rw [List.append_nil] at ht'
  obtain rfl : t' = rest := toNode_inj.1 (ht'.trans hrest.symm)
  exact hok

/-- A node in one place of a tree can be moved into any group of what is left without it. -/
theorem moveNode_of_within (hd : t.ids.Nodup) (ht : t.toNode = n.within (c ++ [k]))
    (hrest : rest.toNode = Node.without c k) (hg : rest.toNode = g.toNode.within d) (i : Nat) :
    ∃ t', t.moveNode n.id g.id i = .ok t' ∧
      t'.toNode = n.within (d ++ [⟨g.header, g.children.take i, g.children.drop i⟩]) := by
  have happ := nodup_without hd ht
  rw [← hrest] at happ
  have hdrest : rest.ids.Nodup := happ.of_append_right
  have hdel := deleteNode_of_within hd ht hrest
  have hout : g.id ∉ n.ids := by
    intro hin
    exact List.disjoint_of_nodup_append happ hin (Has.mem_ids ⟨d, hg⟩)
  have hroot := id_ne_of_within hd ht
  have hn : t.find? n.id = some n := find?_of_place hd (place_of_within hd ht)
  -- the group was there before, with the node still in it or in one of its own groups
  obtain ⟨g', hg'⟩ : ∃ g', t.group g.id = .ok g' := by
    rw [group_ok_iff_isGroupAt?,
      ← isGroupAt?_deleteNode hdel (place_of_within hd ht) hout, ← group_ok_iff_isGroupAt?]
    exact ⟨g, group_of_within hdrest hg⟩
  obtain ⟨hhas, hid⟩ := (find?_iff_has hd).1 (group_ok_iff.1 hg')
  cases hmove : t.moveNode n.id g.id i with
  | error e =>
    rcases (moveNode_error_iff_of_find? hd hroot hn).1 hmove with
      ⟨habsent, -⟩ | ⟨hin, -⟩ | ⟨-, -, b, hb, hbid⟩
    · exact absurd (hid ▸ hhas.mem_ids) habsent
    · exact absurd hin hout
    · cases hb.unique hd hhas (hbid.trans hid.symm)
  | ok t' =>
    refine ⟨t', rfl, ?_⟩
    obtain ⟨m, u, hm, hdel', hput⟩ := moveNode_ok hmove
    obtain rfl := Option.some.inj (hn.symm.trans hm)
    obtain rfl := Except.ok.inj (hdel.symm.trans hdel')
    obtain ⟨h, b, hh, hu, ht'⟩ := editGroup_ok hput
    obtain rfl := Except.ok.inj ((group_of_within hdrest hg).symm.trans hh)
    obtain ⟨-, rfl⟩ := within_unique hdrest hg hu rfl
    rw [ht', toNode_insert, Node.within_append]

theorem exists_group_without (hd : t.ids.Nodup) (ht : t.toNode = n.within (c ++ [k]))
    (hrest : rest.toNode = Node.without c k) (hg : t.Has g.toNode)
    (hout : ∀ b, n ≠ g.toNode.within b) :
    ∃ ns d, rest.toNode = (Node.group g.header ns).within d := by
  obtain ⟨b, hb⟩ := hg
  have houtside : g.id ∉ n.ids := by
    intro hin
    obtain ⟨m, e, hm, hid⟩ := Node.exists_within_of_mem hin
    have hmt : t.toNode = m.within (c ++ [k] ++ e) := by rw [Node.within_append, ← hm, ht]
    obtain ⟨rfl, -⟩ := within_unique hd hmt hb hid
    exact hout e hm
  obtain ⟨p, hentry⟩ := g.toNode.exists_entry_within b none
  have hleft : ⟨p, g.toNode.bare⟩ ∈ (Node.without c k).entries none := by
    rw [ids, ht] at hd
    rw [← Node.filter_entries hd none, ← ht, hb]
    refine List.mem_filter.2 ⟨hentry, decide_eq_true ?_⟩
    rw [Node.id_bare]
    exact houtside
  obtain ⟨m, d, hm, hbare⟩ := Node.exists_within_of_entry _ hleft
  cases m with
  | condition e => cases hbare
  | group h ns =>
    obtain ⟨rfl, -⟩ := Node.group.inj hbare
    exact ⟨ns, d, hrest.trans hm⟩

theorem filter_entries (hd : t.ids.Nodup) (ht : t.toNode = n.within (c ++ [k])) :
    t.entries.filter (fun e => e.node.id ∉ n.ids) = (Node.without c k).entries none := by
  rw [ids, ht] at hd
  rw [entries, ht, Node.filter_entries hd]

theorem perm_contents_without (ht : t.toNode = n.within (c ++ [k])) :
    t.contents.Perm (n.contents ++ (Node.without c k).contents) := by
  rw [contents, ht]
  exact Node.perm_contents n c k

end Group

/-- In a tree with distinct ids, every node below the root can be moved to every group outside of it.
The node leaves the children of its group, and in what is left the target gets it as a child, at the
index or behind all its children. All other nodes keep what they say, the groups they are in and
their order, the nodes are the same ones in number and kind, and moving the node back to its index
gives the tree as it was. -/
theorem moves_change_place_only (t : Tree) (n : Node) (c : List Frame) (k : Frame) (g : Group)
    (i : Nat) (hd : t.ids.Nodup) (hn : t.toNode = n.within (c ++ [k])) (hg : t.Has g.toNode)
    (hout : ∀ b, n ≠ g.toNode.within b) :
    ∃ (t' : Tree) (d : List Frame) (before after : List Node),
      t.moveNode n.id g.id i = .ok t' ∧
      (Node.group k.header (k.before ++ k.after)).within c
        = (Node.group g.header (before ++ after)).within d ∧
      t'.toNode = n.within (d ++ [⟨g.header, before, after⟩]) ∧
      before.length = min i (before ++ after).length ∧
      t'.entries.filter (fun e => e.node.id ∉ n.ids)
        = t.entries.filter (fun e => e.node.id ∉ n.ids) ∧
      t'.contents.Perm t.contents ∧
      t'.moveNode n.id k.header.id k.before.length = .ok t := by
  obtain ⟨rest, hrest⟩ := Group.exists_toNode_eq_within ⟨k.header, k.before ++ k.after⟩ c
  obtain ⟨ns, d, hns⟩ := Group.exists_group_without hd hn hrest hg hout
  obtain ⟨t', hmove, ht'⟩ := Group.moveNode_of_within (g := ⟨g.header, ns⟩) hd hn hrest hns i
  -- the tree after the move is the same without the node
  have hwithout : Node.without d ⟨g.header, ns.take i, ns.drop i⟩ = Node.without c k :=
    (Group.without_insert i ⟨g.header, ns⟩ d).trans (hns.symm.trans hrest)
  have hperm : t'.contents.Perm t.contents := by
    have hafter := Group.perm_contents_without ht'
    rw [hwithout] at hafter
    exact hafter.trans (Group.perm_contents_without hn).symm
  have hd' : t'.ids.Nodup := by
    have hids := hperm.map (·.id)
    rw [Group.contents, Group.contents, Node.map_id_contents, Node.map_id_contents] at hids
    exact hids.nodup_iff.2 hd
  obtain ⟨u, hback, hu⟩ := Group.moveNode_of_within (g := ⟨k.header, k.before ++ k.after⟩) hd' ht'
    (hrest.trans hwithout.symm) hrest k.before.length
  obtain rfl : u = t := by
    rw [← Group.toNode_inj, hu, hn, List.take_left, List.drop_left]
  refine ⟨t', d, ns.take i, ns.drop i, hmove, ?_, ht', ?_, ?_, hperm, hback⟩
  · rw [List.take_append_drop]
    exact hrest.symm.trans hns
  · rw [List.take_append_drop, List.length_take]
  · rw [Group.filter_entries hd' ht', hwithout, Group.filter_entries hd hn]

/-- A group is moved into a later one in the same group, which comes first then, and back. -/
theorem moves_change_place_only_deeper :
    let a : Node := .condition ⟨"a", "x", .isEmpty, .null, none⟩
    let n : Node := .group ⟨"n", .or, true, some .or⟩ [a]
    let g : Group := ⟨⟨"g", .and, false, none⟩, []⟩
    let t : Tree := ⟨⟨"t", .and, false, none⟩, [n, g.toNode]⟩
    let t' : Tree := ⟨t.header, [.group g.header [n]]⟩
    t.ids.Nodup ∧ t.Has g.toNode ∧ (∀ b, n ≠ g.toNode.within b) ∧
      t.moveNode "n" "g" 7 = .ok t' ∧ t'.moveNode "n" "t" 0 = .ok t := by
  intro a n g t t'
  have hd : t.ids.Nodup := by decide
  have hg : t.Has g.toNode := ⟨[⟨t.header, [n], []⟩], rfl⟩
  have hout : ∀ b, n ≠ g.toNode.within b := by
    intro b hb
    have hmem : "g" ∈ n.ids := hb ▸ Node.id_mem_ids_within g.toNode b
    exact absurd hmem (by decide)
  obtain ⟨u, -, -, -, hu, -, -, -, -, -, hback⟩ :=
    moves_change_place_only t n [] ⟨t.header, [], [g.toNode]⟩ g 7 hd rfl hg hout
  have hmove : t.moveNode "n" "g" 7 = .ok t' := rfl
  obtain rfl : u = t' := Except.ok.inj (hu.symm.trans hmove)
  exact ⟨hd, hg, hout, hu, hback⟩

theorem perm_iff_of_append {α : Type} {xs ys zs ws : List α}
    (h : (xs ++ ys).Perm (zs ++ ws)) : xs.Perm zs ↔ ys.Perm ws := by
  constructor
  · intro hxs
    exact (List.perm_append_left_iff zs).1 ((hxs.symm.append_right ys).trans h)
  · intro hys
    exact (List.perm_append_right_iff ws).1 ((hys.symm.append_left xs).trans h)

/-- In a tree with any ids, a move that succeeds takes one node out and puts one node in: conditions
and groups are the same ones in number and kind just if these two hold the same. They are one node
if the id occurs once; where it occurs twice, the place of a child is found before that of a node
further in, but the node further in is found before the child. -/
theorem moves_trade_nodes (t t' : Tree) (id target : String) (i : Nat)
    (h : t.moveNode id target i = .ok t') :
    ∃ n p, t.find? id = some n ∧ t.place id = .ok p ∧
      (t'.conditions ++ p.node.conditions).Perm (t.conditions ++ n.conditions) ∧
      (t'.groupIds ++ p.node.groupIds).Perm (t.groupIds ++ n.groupIds) ∧
      (t'.conditions.Perm t.conditions ∧ t'.groupIds.Perm t.groupIds ↔
        p.node.conditions.Perm n.conditions ∧ p.node.groupIds.Perm n.groupIds) ∧
      (t.ids.count id = 1 → p.node = n) := by
  obtain ⟨n, p, hn, hp, hperm⟩ := Group.perm_contents_moveNode h
  have hconditions : (t'.conditions ++ p.node.conditions).Perm (t.conditions ++ n.conditions) := by
    have hmap := hperm.filterMap Node.toCondition?
    rwa [List.filterMap_append, List.filterMap_append, ← Group.conditions_eq,
      ← Group.conditions_eq, ← Node.conditions_eq, ← Node.conditions_eq] at hmap
  have hgroups : (t'.groupIds ++ p.node.groupIds).Perm (t.groupIds ++ n.groupIds) := by
    have hmap := hperm.filterMap fun m => m.toGroup?.map (·.id)
    rwa [List.filterMap_append, List.filterMap_append] at hmap
  refine ⟨n, p, hn, hp, hconditions, hgroups, ?_, ?_⟩
  · rw [perm_iff_of_append hconditions, perm_iff_of_append hgroups]
  · intro hcount
    have hroot : t.id ≠ id := by
      intro hroot
      rw [Group.place, if_pos hroot] at hp
      cases hp
    have hfind : t.toNode.find? id = some n :=
      (Group.find?_toNode t id).trans ((if_neg hroot).trans hn)
    exact Group.find?_of_place_of_count (Nat.le_of_eq hcount) hfind hp

/-- A group with two children of one id, each of which says the same. -/
theorem moves_trade_nodes_alike :
    let a (field : String) : Node := .condition ⟨"a", field, .isEmpty, .null, none⟩
    let t : Tree := ⟨⟨"t", .and, false, none⟩, [.group ⟨"g", .or, false, none⟩ [a "x"], a "x"]⟩
    let t' : Tree := ⟨⟨"t", .and, false, none⟩, [.group ⟨"g", .or, false, none⟩ [a "x", a "x"]]⟩
    t.moveNode "a" "g" 0 = .ok t' ∧ t'.conditions.Perm t.conditions ∧ t'.groupIds.Perm t.groupIds := by
  intro a t t'
  have hmove : t.moveNode "a" "g" 0 = .ok t' := rfl
  obtain ⟨n, p, hn, hp, -, -, hiff, -⟩ := moves_trade_nodes t t' "a" "g" 0 hmove
  have hfind : t.find? "a" = some (a "x") := rfl
  have hplace : t.place "a" = .ok ⟨t.header, [.group ⟨"g", .or, false, none⟩ [a "x"]], a "x", []⟩ :=
    rfl
  obtain rfl := Option.some.inj (hfind.symm.trans hn)
  obtain rfl := Except.ok.inj (hplace.symm.trans hp)
  exact ⟨hmove, hiff.2 ⟨.refl _, .refl _⟩⟩

/-- A condition in a group and a condition after the group have one id. A move finds the first, but
takes the second out, which is then lost. -/
theorem other_node_taken_out :
    let a (field : String) : Node := .condition ⟨"a", field, .isEmpty, .null, none⟩
    let g : Node := .group ⟨"g", .or, false, none⟩ [a "x"]
    let t : Tree := ⟨⟨"t", .and, false, none⟩, [g, a "y", .group ⟨"h", .or, false, none⟩ []]⟩
    let t' : Tree := ⟨⟨"t", .and, false, none⟩, [g, .group ⟨"h", .or, false, none⟩ [a "x"]]⟩
    t.moveNode "a" "h" 0 = .ok t' ∧ ¬ t'.conditions.Perm t.conditions := by
  intro a g t t'
  exact ⟨rfl, by decide⟩

end Criteria
