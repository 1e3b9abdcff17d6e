import Criteria.Proofs.Edit.Place

namespace Criteria

namespace Node

variable {id target : String} {n m : Node} {ns : List Node} {c : List Frame} {g : Group}

mutual

theorem path?_of_not_mem (n : Node) (h : id ∉ n.ids) : n.path? id = none := by
  cases n with
  | condition d =>
    simp only [ids, List.mem_singleton] at h
    simp only [path?, if_neg (Ne.symm h)]
  | group k children =>
    simp only [ids, List.mem_cons, not_or] at h
    simp only [path?, if_neg (Ne.symm h.1), pathAmong?_of_not_mem children h.2, Option.map_none]

theorem pathAmong?_of_not_mem (ns : List Node) (h : id ∉ idsOf ns) : pathAmong? id ns = none := by
  cases ns with
  | nil => rfl
  | cons n ns =>
    simp only [idsOf, List.mem_append, not_or] at h
    simp only [pathAmong?, path?_of_not_mem n h.1, pathAmong?_of_not_mem ns h.2, Option.none_or]

end

theorem pathAmong?_append (ns ms : List Node) :
    pathAmong? id (ns ++ ms) = (pathAmong? id ns).or (pathAmong? id ms) := by
  induction ns with
  | nil => rfl
  | cons n ns ih => simp only [List.cons_append, pathAmong?, ih, Option.or_assoc]

/-- The path to a node that nothing before it is taken for leads through the groups around it. -/
theorem path?_within (hc : n.id ∉ idsBefore c) :
    (n.within c).path? n.id = some (c.map (·.header.id) ++ [n.id]) := by
  induction c with
  | nil => cases n <;> simp only [within, path?, Node.id, if_true] <;> rfl
  | cons f c ih =>
    simp only [idsBefore, List.cons_append, List.mem_cons, List.mem_append, not_or] at hc
    simp only [within, Frame.fill, path?, if_neg (Ne.symm hc.1), pathAmong?_append,
      pathAmong?_of_not_mem f.before hc.2.1, pathAmong?, ih hc.2.2, Option.none_or, Option.some_or,
      Option.map_some, List.map_cons, List.cons_append]

theorem path?_eq_none (n : Node) : n.path? id = none ↔ id ∉ n.ids := by
  refine ⟨fun h hmem => ?_, path?_of_not_mem n⟩
  obtain ⟨m, hm⟩ := Option.ne_none_iff_exists'.1 (mt (find?_eq_none n).1 (not_not.2 hmem))
  obtain ⟨rfl, c, rfl, hc⟩ := exists_within_of_find? n hm
  cases h.symm.trans (path?_within hc)

theorem path?_within_congr (h : n.path? id = m.path? id) (c : List Frame) :
    (n.within c).path? id = (m.within c).path? id := by
  induction c with
  | nil => exact h
  | cons f c ih => simp only [within, Frame.fill, path?, pathAmong?_append, pathAmong?, ih]

theorem exists_within_of_mem (h : id ∈ n.ids) :
    ∃ (m : Node) (c : List Frame), n = m.within c ∧ m.id = id := by
  obtain ⟨m, hm⟩ := Option.ne_none_iff_exists'.1 (mt (find?_eq_none n).1 (not_not.2 h))
  obtain ⟨hid, c, hn, -⟩ := exists_within_of_find? n hm
  exact ⟨m, c, hn, hid⟩

/-- In a tree with distinct ids, the path to a node leads through another one just if it lies in
that. -/
theorem mem_path?_iff (hd : (n.within c).ids.Nodup) {path : List String}
    (hp : (n.within c).path? target = some path) : n.id ∈ path ↔ target ∈ n.ids := by
  constructor
  · intro hmem
    have htarget : target ∈ (n.within c).ids := by
      by_contra hnot
      cases ((path?_eq_none _).2 hnot).symm.trans hp
    obtain ⟨m, e, hm, rfl⟩ := exists_within_of_mem htarget
    rw [hm] at hp
    obtain rfl := Option.some.inj ((path?_within (not_mem_idsBefore (hm ▸ hd))).symm.trans hp)
    rcases List.mem_append.1 hmem with hf | hself
    · -- one of the groups around the target has the id of `n`, so it is `n`
      obtain ⟨f, hf, hid⟩ := List.mem_map.1 hf
      obtain ⟨outer, inner, rfl⟩ := List.append_of_mem hf
      have hfid : (m.within (f :: inner)).id = n.id := hid
      rw [within_append] at hm
      have hfind := find?_within_of_nodup (hm ▸ hd)
      rw [hfid, ← hm, find?_within_of_nodup hd] at hfind
      rw [Option.some.inj hfind, ids_within]
      exact List.mem_append_left _ (List.mem_append_right _ m.id_mem_ids)
    · have hmid : m.id = n.id := (List.mem_singleton.1 hself).symm
      have hfind := find?_within_of_nodup (hm ▸ hd)
      rw [hmid, ← hm, find?_within_of_nodup hd] at hfind
      rw [Option.some.inj hfind]
      exact m.id_mem_ids
  · intro hin
    obtain ⟨m, e, rfl, rfl⟩ := exists_within_of_mem hin
    rw [← within_append] at hd hp
    obtain rfl := Option.some.inj ((path?_within (not_mem_idsBefore hd)).symm.trans hp)
    cases e with
    | nil => exact List.mem_append_right _ List.mem_cons_self
    | cons f e => simp [within, Frame.fill, Node.id]

mutual

theorem exists_within_of_parent? (n : Node) (h : n.parent? id = some g) :
    (∃ c, n = g.toNode.within c) ∧ ∃ m ∈ g.children, m.id = id := by
  cases n with
  | condition d => cases h
  | group k children =>
    simp only [parent?] at h
    split at h
    · next hany =>
      cases h
      exact ⟨⟨[], rfl⟩, by simpa using hany⟩
    · obtain ⟨⟨before, after, c, rfl⟩, hg⟩ := exists_within_of_parentAmong? children h
      exact ⟨⟨⟨k, before, after⟩ :: c, rfl⟩, hg⟩

theorem exists_within_of_parentAmong? (ns : List Node) (h : parentAmong? id ns = some g) :
    (∃ before after c, ns = before ++ g.toNode.within c :: after) ∧
      ∃ m ∈ g.children, m.id = id := by
  cases ns with
  | nil => cases h
  | cons n ns =>
    simp only [parentAmong?, Option.or_eq_some_iff] at h
    rcases h with hn | ⟨-, hns⟩
    · obtain ⟨⟨c, rfl⟩, hg⟩ := exists_within_of_parent? n hn
      exact ⟨⟨[], ns, c, rfl⟩, hg⟩
    · obtain ⟨⟨before, after, c, rfl⟩, hg⟩ := exists_within_of_parentAmong? ns hns
      exact ⟨⟨n :: before, after, c, rfl⟩, hg⟩

end

mutual

theorem parent?_eq_none (n : Node) : n.parent? id = none ↔ id ∉ n.ids.tail := by
  cases n with
  | condition d => simp [parent?, ids]
  | group k children =>
    rw [ids, List.tail_cons, ← parentAmong?_eq_none children, parent?]
    by_cases hany : children.any (·.id = id) = true
    · have hchild : ∃ m ∈ children, m.id = id := by simpa using hany
      obtain ⟨m, hm, hid⟩ := hchild
      simp only [hany, if_true, reduceCtorEq, false_iff, not_and]
      exact fun hnone => absurd hid (hnone m hm)
    · have hnone : ∀ m ∈ children, m.id ≠ id := by simpa using hany
      simp only [hany, Bool.false_eq_true, if_false, and_iff_right hnone]

theorem parentAmong?_eq_none (ns : List Node) :
    (∀ m ∈ ns, m.id ≠ id) ∧ parentAmong? id ns = none ↔ id ∉ idsOf ns := by
  cases ns with
  | nil => simp [parentAmong?, idsOf]
  | cons n ns =>
    have hids : n.ids = n.id :: n.ids.tail := by cases n <;> rfl
    rw [idsOf, List.mem_append, not_or, hids, List.mem_cons, not_or, ← parent?_eq_none n,
      ← parentAmong?_eq_none ns, parentAmong?, Option.or_eq_none_iff, List.forall_mem_cons,
      eq_comm (a := id)]
    tauto

end

theorem parentAmong?_append (ns ms : List Node) :
    parentAmong? id (ns ++ ms) = (parentAmong? id ns).or (parentAmong? id ms) := by
  induction ns with
  | nil => rfl
  | cons n ns ih => simp only [List.cons_append, parentAmong?, ih, Option.or_assoc]

theorem id_within_congr (h : n.id = m.id) (c : List Frame) : (n.within c).id = (m.within c).id := by
  cases c with
  | nil => exact h
  | cons f c => rfl

theorem parent?_within_congr (hid : n.id = m.id)
    (h : (n.parent? id).map (·.id) = (m.parent? id).map (·.id)) (c : List Frame) :
    ((n.within c).parent? id).map (·.id) = ((m.within c).parent? id).map (·.id) := by
  induction c with
  | nil => exact h
  | cons f c ih =>
    simp only [within, Frame.fill, parent?, List.any_append, List.any_cons, id_within_congr hid c]
    split
    · rfl
    · simp only [parentAmong?_append, parentAmong?, Option.map_or, ih]

theorem findAmong?_append (ns ms : List Node) :
    findAmong? id (ns ++ ms) = (findAmong? id ns).or (findAmong? id ms) := by
  induction ns with
  | nil => rfl
  | cons n ns ih => simp only [List.cons_append, findAmong?, ih, Option.or_assoc]

/-- Whether a search for an id ends at a group. Nothing if it fails. -/
def isGroupAt? (n : Node) (id : String) : Option Bool := (n.find? id).map (·.toGroup?.isSome)

theorem isGroupAt?_fill (f : Frame) :
    (f.fill n).isGroupAt? id = if f.header.id = id then some true else
      (((findAmong? id f.before).map (·.toGroup?.isSome)).or (n.isGroupAt? id)).or
        ((findAmong? id f.after).map (·.toGroup?.isSome)) := by
  rw [isGroupAt?, Frame.fill, find?]
  split
  · rfl
  · simp only [findAmong?_append, findAmong?, Option.map_or, isGroupAt?, Option.or_assoc]

theorem isGroupAt?_within_congr (h : n.isGroupAt? id = m.isGroupAt? id) (c : List Frame) :
    (n.within c).isGroupAt? id = (m.within c).isGroupAt? id := by
  induction c with
  | nil => exact h
  | cons f c ih => simp only [within, isGroupAt?_fill, ih]

mutual

theorem conditionCount_eq (n : Node) : n.conditionCount = n.conditions.length := by
  cases n with
  | condition c => rfl
  | group h children => exact conditionCountOf_eq children

theorem conditionCountOf_eq (ns : List Node) :
    conditionCountOf ns = (conditionsOf ns).length := by
  cases ns with
  | nil => rfl
  | cons n ns =>
    rw [conditionCountOf, conditionsOf, List.length_append, conditionCount_eq n,
      conditionCountOf_eq ns]

end

end Node

theorem Group.conditionCount_eq (t : Tree) : t.conditionCount = t.conditions.length :=
  Node.conditionCountOf_eq t.children

end Criteria
