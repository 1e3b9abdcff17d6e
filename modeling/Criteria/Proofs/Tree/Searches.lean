import Criteria.Proofs.Edit.Locality
import Mathlib.Data.List.Chain

namespace Criteria

namespace Node

mutual

theorem map_id_occurrences (n : Node) : n.occurrences.map (·.node.id) = n.ids := by
  cases n with
  | condition c => rfl
  | group h children => exact congrArg (h.id :: ·) (map_id_occurrencesAfter h [] children)

theorem map_id_occurrencesAfter (h : Header) (before ns : List Node) :
    (occurrencesAfter h before ns).map (·.node.id) = idsOf ns := by
  cases ns with
  | nil => rfl
  | cons n ns =>
    rw [occurrencesAfter, List.map_append, List.map_map,
      map_id_occurrencesAfter h (before ++ [n]) ns, idsOf, ← map_id_occurrences n]
    rfl

end

theorem head?_path (n : Node) (c : List Frame) :
    (c.map (·.header.id) ++ [n.id]).head? = some (n.within c).id := by
  cases c <;> rfl

end Node

namespace Group

variable {t g : Tree} {n : Node} {id : String} {c inner : List Frame} {f : Frame} {i : Nat}

/-- Whether a tree has a group with one id and a child with the other one in it. -/
def HasChild (t : Tree) (a b : String) : Prop :=
  ∃ g, t.findGroup? a = some g ∧ ∃ n ∈ g.children, n.id = b

theorem hasChild_within (hd : t.ids.Nodup) (ht : t.toNode = (f.fill n).within c) :
    t.HasChild f.header.id n.id := by
  refine ⟨⟨f.header, f.before ++ n :: f.after⟩, ?_, n, by simp, rfl⟩
  exact findGroup?_of_has (n := f.fill n) hd ⟨c, ht⟩

theorem isChain_path (outer : List Frame) (hd : t.ids.Nodup)
    (ht : t.toNode = n.within (outer ++ inner)) :
    (inner.map (·.header.id) ++ [n.id]).IsChain t.HasChild := by
  induction inner generalizing outer with
  | nil => exact List.isChain_singleton _
  | cons f inner ih =>
    have hrest : t.toNode = n.within ((outer ++ [f]) ++ inner) := by
      rw [ht, List.append_assoc, List.singleton_append]
    rw [List.map_cons, List.cons_append]
    refine List.IsChain.cons (ih (outer ++ [f]) hrest) ?_
    intro a ha
    rw [n.head?_path inner, Option.mem_some_iff] at ha
    rw [Node.within_append] at ht
    exact ha ▸ hasChild_within hd ht

/-- Whether a path leads from the root to an id, each step to a child of the group before. -/
structure Leads (t : Tree) (path : List String) (id : String) : Prop where
  head : path.head? = some t.id
  last : path.getLast? = some id
  steps : path.IsChain t.HasChild

theorem isSome_path? : (t.path? id).isSome = true ↔ id ∈ t.ids := by
  rw [← not_iff_not, ids, ← Node.path?_eq_none, path?]
  simp

theorem path?_eq_some (hd : t.ids.Nodup) (ht : t.toNode = n.within c) :
    t.path? n.id = some (c.map (·.header.id) ++ [n.id]) := by
  rw [ids, ht] at hd
  rw [path?, ht, Node.path?_within (Node.not_mem_idsBefore hd)]

theorem leads_path? (hd : t.ids.Nodup) {path : List String} (h : t.path? id = some path) :
    t.Leads path id := by
  have hmem : id ∈ t.ids := isSome_path?.1 (h ▸ rfl)
  obtain ⟨n, ⟨c, ht⟩, rfl⟩ := exists_has hmem
  obtain rfl := Option.some.inj ((path?_eq_some hd ht).symm.trans h)
  refine ⟨?_, List.getLast?_concat, isChain_path [] hd ht⟩
  rw [n.head?_path c, ← ht]
  rfl

/-- What the searches for an id find, if they agree: the only node with the id, the group around it,
its index in there, and the path that ends with the two. -/
structure Finds (t : Tree) (id : String) (n : Node) (g : Group) (i : Nat) (above : List String) :
    Prop where
  node : t.find? id = some n
  id_eq : n.id = id
  only : ∀ m, t.Has m → m.id = id → m = n
  parent : t.parent? id = some g
  group : t.findGroup? g.id = some g
  path : t.path? id = some (above ++ [g.id, id])
  index : g.position? id = some i
  child : g.children[i]? = some n

theorem exists_frame (hroot : t.id ≠ id) (h : id ∈ t.ids) :
    ∃ (n : Node) (c : List Frame) (f : Frame), t.toNode = n.within (c ++ [f]) ∧ n.id = id := by
  obtain ⟨n, ⟨c, ht⟩, rfl⟩ := exists_has h
  rcases List.eq_nil_or_concat c with rfl | ⟨c, f, rfl⟩
  · exact absurd (congrArg Node.id ht) hroot
  · rw [List.concat_eq_append] at ht
    exact ⟨n, c, f, ht, rfl⟩

theorem parent?_eq (hd : t.ids.Nodup) (hroot : t.id ≠ n.id) (ht : t.toNode = n.within (c ++ [f])) :
    t.parent? n.id = some ⟨f.header, f.before ++ n :: f.after⟩ := by
  have hn : t.Has n := ⟨c ++ [f], ht⟩
  obtain ⟨p, hp⟩ := exists_place hd hroot hn.mem_ids
  obtain ⟨-, g, -, hparent, -⟩ := place_eq_ok.1 hp
  obtain ⟨⟨b, hg⟩, m, hm, hid⟩ := Node.exists_within_of_parent? _ hparent
  obtain ⟨j, hj⟩ := List.mem_iff_getElem?.1 hm
  obtain ⟨-, rfl, -⟩ := child_unique hd ht hg hj hid
  exact hparent

theorem position?_eq (hd : t.ids.Nodup) (ht : t.toNode = n.within (c ++ [f])) :
    Group.position? ⟨f.header, f.before ++ n :: f.after⟩ n.id = some f.before.length := by
  have hg : t.toNode = (f.fill n).within c := ht.trans (Node.within_append ..)
  refine List.findIdx?_eq_some_iff_getElem.2 ⟨by simp, by simp, ?_⟩
  intro j hj hid
  have hjth := List.getElem?_eq_getElem (l := f.before ++ n :: f.after) (i := j) (by simp; omega)
  obtain ⟨-, -, heq⟩ := child_unique (g := ⟨f.header, f.before ++ n :: f.after⟩) hd ht hg hjth
    (of_decide_eq_true hid)
  exact Nat.ne_of_lt hj heq

theorem exists_finds (hd : t.ids.Nodup) (hroot : id ≠ t.id) (h : id ∈ t.ids) :
    ∃ n g i above, t.Finds id n g i above := by
  obtain ⟨n, c, f, ht, rfl⟩ := exists_frame hroot.symm h
  have hn : t.Has n := ⟨c ++ [f], ht⟩
  have hpath : t.path? n.id = some (c.map (·.header.id) ++ [f.header.id, n.id]) := by
    rw [path?_eq_some hd ht]
    simp
  have hnode : t.find? n.id = some n := by
    have hfind := (find?_iff_has hd).2 ⟨hn, rfl⟩
    rwa [find?_toNode, if_neg hroot.symm] at hfind
  have hgroup : t.toNode = (f.fill n).within c := ht.trans (Node.within_append ..)
  exact ⟨n, ⟨f.header, f.before ++ n :: f.after⟩, f.before.length, c.map (·.header.id),
    { node := hnode
      id_eq := rfl
      only := fun m hm hid => hm.unique hd hn hid
      parent := parent?_eq hd hroot.symm ht
      group := findGroup?_of_has (n := f.fill n) hd ⟨c, hgroup⟩
      path := hpath
      index := position?_eq hd ht
      child := by simp }⟩

theorem not_mem_tail_iff (hd : t.ids.Nodup) : id ∉ t.toNode.ids.tail ↔ id ∉ t.ids ∨ id = t.id := by
  have hcons : t.ids = t.id :: t.toNode.ids.tail := rfl
  rw [hcons] at hd ⊢
  rw [List.mem_cons]
  by_cases h : id = t.id
  · simp only [h, or_true, iff_true]
    exact (List.nodup_cons.1 hd).1
  · simp only [h, false_or, or_false]

theorem find?_eq_none_iff (hd : t.ids.Nodup) : t.find? id = none ↔ id ∉ t.ids ∨ id = t.id :=
  (Node.findAmong?_eq_none t.children).trans (not_mem_tail_iff hd)

theorem parent?_eq_none_iff (hd : t.ids.Nodup) :
    t.parent? id = none ↔ id ∉ t.ids ∨ id = t.id :=
  (Node.parent?_eq_none t.toNode).trans (not_mem_tail_iff hd)

/-- Whether some occurrences are all there are in a tree, in document order. -/
structure IsOrdered (t : Tree) (os : List Occurrence) : Prop where
  all : ∀ o, o ∈ os ↔ o.whole = t.toNode
  ordered : os.Pairwise fun o p => o.position < p.position

theorem isOrdered_occurrences (t : Tree) : t.IsOrdered t.toNode.occurrences :=
  ⟨fun _ => Node.mem_occurrences, Node.pairwise_occurrences t.toNode⟩

end Group

/-- With distinct ids, an id occurs just if it is found and just if there is a path to it. The path
leads from the root to the id, each step to a child of the group before it. For any node but the
root, the searches find the only node with the id, the group that is the last but one on the path,
and the index of the node in there; for other ids and for the root they find nothing. The list of
ids shows each node once, in document order, and the conditions that are counted are those of the
list of conditions, which is in this order too. -/
theorem searches_lead_to_one_place (t : Tree) (hd : t.ids.Nodup) (id : String) :
    (t.containsId id = true ↔ id ∈ t.ids) ∧ ((t.path? id).isSome = true ↔ id ∈ t.ids) ∧
      (∀ path, t.path? id = some path →
        t.Leads path id ∧ t.depth? id = some (path.length - 1)) ∧
      (id ∈ t.ids → id ≠ t.id → ∃ n g i above, t.Finds id n g i above) ∧
      (t.find? id = none ↔ id ∉ t.ids ∨ id = t.id) ∧
      (t.parent? id = none ↔ id ∉ t.ids ∨ id = t.id) ∧
      ∃ os, t.IsOrdered os ∧ t.ids = os.map (·.node.id) ∧
        t.conditions = os.filterMap (·.node.toCondition?) ∧
        t.conditionCount = t.conditions.length := by
  refine ⟨Group.containsId_iff, Group.isSome_path?, ?_, ?_, Group.find?_eq_none_iff hd,
    Group.parent?_eq_none_iff hd, ?_⟩
  · intro path hpath
    refine ⟨Group.leads_path? hd hpath, ?_⟩
    rw [Group.depth?, hpath, Option.map_some]
  · exact fun hmem hroot => Group.exists_finds hd hroot hmem
  · exact ⟨t.toNode.occurrences, t.isOrdered_occurrences, (Node.map_id_occurrences t.toNode).symm,
      (Node.filterMap_occurrences t.toNode).symm, t.conditionCount_eq⟩

/-- A node two groups down, with a sibling before it and a child of the root behind. -/
theorem searches_lead_to_one_place_nested :
    let leaf (id : String) : Node := .condition ⟨id, "x", .isEmpty, .null, none⟩
    let k (id : String) (children : List Node) : Node := .group ⟨id, .and, false, none⟩ children
    let t : Tree := ⟨⟨"r", .and, false, none⟩, [k "g" [k "h" [leaf "a", leaf "b"]], leaf "c"]⟩
    t.ids.Nodup ∧ t.path? "b" = some ["r", "g", "h", "b"] ∧
      t.Leads ["r", "g", "h", "b"] "b" ∧ t.depth? "b" = some 3 ∧
      ∃ n g above, t.Finds "b" n g 1 above ∧ g.id = "h" := by
  intro leaf k t
  have hd : t.ids.Nodup := by decide
  have hpath : t.path? "b" = some ["r", "g", "h", "b"] := by decide
  obtain ⟨-, -, hleads, hfinds, -⟩ := searches_lead_to_one_place t hd "b"
  obtain ⟨hway, hdepth⟩ := hleads _ hpath
  obtain ⟨n, g, i, above, hb⟩ := hfinds (by decide) (by decide)
  have hparent : t.parent? "b" = some ⟨⟨"h", .and, false, none⟩, [leaf "a", leaf "b"]⟩ := by decide
  obtain rfl := Option.some.inj (hb.parent.symm.trans hparent)
  obtain rfl : 1 = i := Option.some.inj hb.index
  exact ⟨hd, hpath, hway, hdepth, n, _, above, hb, rfl⟩

end Criteria
