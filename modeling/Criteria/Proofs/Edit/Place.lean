import Criteria.Proofs.Tree.Context
import Mathlib.Data.List.Nodup

namespace Criteria

namespace Node

variable {n : Node} {c : List Frame}

theorem not_mem_idsBefore (h : (n.within c).ids.Nodup) : n.id ∉ idsBefore c := by
  rw [ids_within, List.append_assoc] at h
  intro hmem
  exact (List.disjoint_of_nodup_append h) hmem (List.mem_append_left _ n.id_mem_ids)

/-- In a tree with distinct ids, a node is what a search for its id finds. -/
theorem find?_within_of_nodup (h : (n.within c).ids.Nodup) :
    (n.within c).find? n.id = some n :=
  find?_within (not_mem_idsBefore h) n.find?_id

end Node

namespace Place

variable {k : Header} {id : String} {p : Place}

theorem among?_eq_some {before ns : List Node} (h : among? k id before ns = some p) :
    p.header = k ∧ p.node.id = id ∧ before.reverse ++ ns = p.before ++ p.node :: p.after := by
  induction ns generalizing before with
  | nil => cases h
  | cons n ns ih =>
    simp only [among?] at h
    split at h
    · next hn =>
      cases h
      exact ⟨rfl, hn, rfl⟩
    · simpa only [List.reverse_cons, List.append_assoc, List.singleton_append] using ih h

theorem toNode_fill (p : Place) (n : Node) :
    (p.fill [n]).toNode = n.within [⟨p.header, p.before, p.after⟩] := by
  simp only [fill, Group.toNode, Node.within, Frame.fill, List.append_assoc, List.singleton_append]

end Place

namespace Group

variable {t t' g : Group} {id : String} {p : Place} {f : Group → Group} {e : Place → List Node}

theorem place?_eq_some (h : g.place? id = some p) : p.node.id = id ∧ g = p.fill [p.node] := by
  obtain ⟨hk, hn, hc⟩ := Place.among?_eq_some h
  refine ⟨hn, ?_⟩
  rw [Place.fill, hk, List.append_assoc]
  exact congrArg (Group.mk g.header) hc

theorem findGroup?_eq_some : t.findGroup? id = some g ↔ t.toNode.find? id = some g.toNode := by
  rw [findGroup?, find?_toNode]
  split
  · simp only [Option.some.injEq, toNode_inj]
  · cases t.find? id with
    | none => simp
    | some n => cases n <;> cases g <;> simp [Node.toGroup?, toNode]

theorem group_ok_iff : t.group id = .ok g ↔ t.toNode.find? id = some g.toNode := by
  rw [← findGroup?_eq_some, group]
  cases t.findGroup? id <;> simp

theorem id_of_group_ok (h : t.group id = .ok g) : g.id = id :=
  (Node.exists_within_of_find? _ (group_ok_iff.1 h)).1

theorem editGroup_eq : t.editGroup id f = (t.group id).map fun g => t.replace id (f g) := by
  rw [editGroup, rewriteGroup]
  cases t.group id <;> rfl

theorem editPlace_eq :
    t.editPlace id e = (t.place id).map fun p => t.replace p.header.id (p.fill (e p)) := by
  rw [editPlace, rewriteSiblings]
  cases t.place id <;> rfl

theorem group_within (h : t.group id = .ok g) :
    ∃ c, g.id = id ∧ t.toNode = g.toNode.within c ∧ id ∉ Node.idsBefore c := by
  obtain ⟨hid, c, ht, hc⟩ := Node.exists_within_of_find? _ (group_ok_iff.1 h)
  exact ⟨c, hid, ht, hc⟩

theorem editGroup_eq_ok (h : t.editGroup id f = .ok t') :
    ∃ g, t.group id = .ok g ∧ t' = t.replace id (f g) := by
  rw [editGroup_eq] at h
  cases hg : t.group id with
  | error e => rw [hg] at h; cases h
  | ok g =>
    rw [hg] at h
    exact ⟨g, rfl, (Except.ok.inj h).symm⟩

theorem editGroup_ok (h : t.editGroup id f = .ok t') :
    ∃ g c, t.group id = .ok g ∧ t.toNode = g.toNode.within c ∧
      t'.toNode = (f g).toNode.within c := by
  obtain ⟨g, hg, rfl⟩ := editGroup_eq_ok h
  obtain ⟨c, rfl, ht, hc⟩ := group_within hg
  exact ⟨g, c, hg, ht, replace_within ht hc⟩

theorem place_eq_ok : t.place id = .ok p ↔ t.id ≠ id ∧ ∃ parent g, t.parent? id = some parent ∧
    t.group parent.id = .ok g ∧ g.place? id = some p := by
  rw [place]
  by_cases hroot : t.id = id
  · simp [hroot]
  · cases hparent : t.parent? id with
    | none => simp [hroot]
    | some parent =>
      cases hg : t.group parent.id with
      | error e => simp [hroot, hg, bind, Except.bind]
      | ok g => cases hp : g.place? id <;> simp [hroot, hg, hp, bind, Except.bind]

theorem place_ok (h : t.place id = .ok p) :
    p.node.id = id ∧ t.group p.header.id = .ok (p.fill [p.node]) := by
  obtain ⟨-, parent, g, -, hg, hp⟩ := place_eq_ok.1 h
  obtain ⟨hid, rfl⟩ := place?_eq_some hp
  have hparent : p.header.id = parent.id := id_of_group_ok hg
  exact ⟨hid, hparent ▸ hg⟩

theorem place_within (h : t.place id = .ok p) :
    ∃ c, t.toNode = (p.fill [p.node]).toNode.within c ∧
      ∀ ns, (t.replace p.header.id (p.fill ns)).toNode = (p.fill ns).toNode.within c := by
  obtain ⟨-, hg⟩ := place_ok h
  obtain ⟨c, -, ht, hc⟩ := group_within hg
  exact ⟨c, ht, fun ns => replace_within ht hc⟩

theorem editPlace_ok (h : t.editPlace id e = .ok t') :
    ∃ p, t.place id = .ok p ∧ t' = t.replace p.header.id (p.fill (e p)) := by
  rw [editPlace_eq] at h
  cases hp : t.place id with
  | error e => rw [hp] at h; cases h
  | ok p =>
    rw [hp] at h
    exact ⟨p, rfl, (Except.ok.inj h).symm⟩

theorem find?_of_place (hd : t.ids.Nodup) (h : t.place id = .ok p) : t.find? id = some p.node := by
  obtain ⟨rfl, hg⟩ := place_ok h
  obtain ⟨-, c, ht, -⟩ := Node.exists_within_of_find? _ (group_ok_iff.1 hg)
  have hroot : t.id ≠ p.node.id := by
    intro he
    rw [place, if_pos he] at h
    cases h
  rw [p.toNode_fill, ← Node.within_append] at ht
  rw [ids, ht] at hd
  have hfind := Node.find?_within_of_nodup hd
  rwa [← ht, find?_toNode, if_neg hroot] at hfind

end Group

end Criteria
