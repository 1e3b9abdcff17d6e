import Criteria.Proofs.Tree.Order
import Mathlib.Data.List.Nodup

namespace Criteria

variable {n m x y : Node} {c e : List Frame} {id : String} {f : Frame} {i : Nat} {is : List Nat}

namespace Node

/-- The node at a position. -/
def at? : List Nat → Node → Option Node
  | [], n => some n
  | _ :: _, .condition _ => none
  | i :: is, .group _ children => children[i]?.bind (at? is)

/-- A node without its children. -/
def bare : Node → Node
  | .condition c => .condition c
  | .group h _ => .group h []

@[simp] theorem id_bare (n : Node) : n.bare.id = n.id := by
  cases n <;> rfl

/-- Nodes that are the same but for what is at a position. -/
structure SameElsewhere (position : List Nat) (n m : Node) : Prop where
  /-- Nothing comes, goes, changes or moves at any other position that is not below. -/
  content : ∀ is, ¬ position <+: is → (n.at? is).map bare = (m.at? is).map bare
  /-- Off the way to the position, the nodes are the same with all that is in them. -/
  subtree : ∀ is, ¬ position <+: is → ¬ is <+: position → n.at? is = m.at? is

theorem at?_fill_length (f : Frame) (n : Node) (is : List Nat) :
    (f.fill n).at? (f.before.length :: is) = n.at? is := by
  simp [Frame.fill, at?]

theorem at?_fill_of_ne (n m : Node) (h : i ≠ f.before.length) :
    (f.fill n).at? (i :: is) = (f.fill m).at? (i :: is) := by
  have hget : (f.before ++ n :: f.after)[i]? = (f.before ++ m :: f.after)[i]? := by
    rcases Nat.lt_or_gt_of_ne h with hlt | hgt
    · rw [List.getElem?_append_left hlt, List.getElem?_append_left hlt]
    · obtain ⟨k, rfl⟩ := Nat.exists_eq_add_of_lt hgt
      rw [Nat.add_assoc, List.getElem?_append_right (Nat.le_add_right ..),
        List.getElem?_append_right (Nat.le_add_right ..), Nat.add_sub_cancel_left,
        List.getElem?_cons_succ, List.getElem?_cons_succ]
  simp only [Frame.fill, at?, hget]

/-- The position at which a context has its place. -/
def position (c : List Frame) : List Nat := c.map (·.before.length)

theorem content_within (c : List Frame) (h : ¬ position c <+: is) :
    ((n.within c).at? is).map bare = ((m.within c).at? is).map bare := by
  induction c generalizing is with
  | nil => exact absurd List.nil_prefix h
  | cons f c ih =>
    cases is with
    | nil => rfl
    | cons i is =>
      by_cases hi : i = f.before.length
      · subst hi
        rw [within, within, at?_fill_length, at?_fill_length]
        apply ih
        intro hpre
        exact h (List.cons_prefix_cons.2 ⟨rfl, hpre⟩)
      · exact congrArg (Option.map bare) (at?_fill_of_ne _ _ hi)

theorem subtree_within (c : List Frame) (h : ¬ position c <+: is) (h' : ¬ is <+: position c) :
    (n.within c).at? is = (m.within c).at? is := by
  induction c generalizing is with
  | nil => exact absurd List.nil_prefix h
  | cons f c ih =>
    cases is with
    | nil => exact absurd List.nil_prefix h'
    | cons i is =>
      by_cases hi : i = f.before.length
      · subst hi
        rw [within, within, at?_fill_length, at?_fill_length]
        apply ih
        · intro hpre
          exact h (List.cons_prefix_cons.2 ⟨rfl, hpre⟩)
        · intro hpre
          exact h' (List.cons_prefix_cons.2 ⟨rfl, hpre⟩)
      · exact at?_fill_of_ne _ _ hi

theorem sameElsewhere_within (n m : Node) (c : List Frame) :
    SameElsewhere (position c) (n.within c) (m.within c) :=
  ⟨fun _ => content_within c, fun _ => subtree_within c⟩

theorem id_mem_ids_within (n : Node) (c : List Frame) : n.id ∈ (n.within c).ids := by
  rw [ids_within]
  exact List.mem_append_left _ (List.mem_append_right _ n.id_mem_ids)

theorem count_fill (f : Frame) (n : Node) (id : String) :
    (f.fill n).ids.count id = [f.header.id].count id + (idsOf f.before).count id +
      n.ids.count id + (idsOf f.after).count id := by
  have hids : (f.fill n).ids = [f.header.id] ++ idsOf f.before ++ n.ids ++ idsOf f.after := by
    simp only [Frame.fill, ids, idsOf_append, idsOf, List.append_assoc, List.cons_append,
      List.nil_append]
  simp only [hids, List.count_append]

theorem split_inj {xs ys zs ws : List Node} (hcount : (idsOf (xs ++ x :: ys)).count id ≤ 1)
    (hx : id ∈ x.ids) (hy : id ∈ y.ids) (h : xs ++ x :: ys = zs ++ y :: ws) :
    xs = zs ∧ x = y ∧ ys = ws := by
  have hxpos : 0 < x.ids.count id := List.count_pos_iff.2 hx
  have hypos : 0 < y.ids.count id := List.count_pos_iff.2 hy
  induction xs generalizing zs with
  | nil =>
    cases zs with
    | nil =>
      obtain ⟨rfl, rfl⟩ := List.cons.inj h
      exact ⟨rfl, rfl, rfl⟩
    | cons z zs =>
      rw [List.nil_append, List.cons_append, List.cons.injEq] at h
      obtain ⟨rfl, rfl⟩ := h
      simp only [List.nil_append, idsOf, idsOf_append, List.count_append] at hcount
      omega
  | cons w xs ih =>
    cases zs with
    | nil =>
      rw [List.nil_append, List.cons_append, List.cons.injEq] at h
      obtain ⟨rfl, rfl⟩ := h
      simp only [List.cons_append, idsOf, idsOf_append, List.count_append] at hcount
      omega
    | cons z zs =>
      rw [List.cons_append, List.cons_append, List.cons.injEq] at h
      obtain ⟨rfl, h⟩ := h
      simp only [List.cons_append, idsOf, List.count_append] at hcount
      obtain ⟨rfl, rfl, rfl⟩ := ih (by omega) h
      exact ⟨rfl, rfl, rfl⟩

theorem within_inj (hcount : (n.within c).ids.count n.id ≤ 1) (h : n.within c = m.within e)
    (hid : n.id = m.id) : n = m ∧ c = e := by
  have hpos (c : List Frame) : 0 < (n.within c).ids.count n.id :=
    List.count_pos_iff.2 (n.id_mem_ids_within c)
  have hpos' (e : List Frame) : 0 < (m.within e).ids.count n.id :=
    List.count_pos_iff.2 (hid ▸ m.id_mem_ids_within e)
  induction c generalizing e with
  | nil =>
    cases e with
    | nil => exact ⟨h, rfl⟩
    | cons f e =>
      -- the outermost group would have the id, and so would the node in it
      obtain rfl : n = f.fill (m.within e) := h
      have hself := hpos' e
      have hcount : ((f.fill (m.within e)).ids.count f.header.id) ≤ 1 := hcount
      rw [count_fill, List.count_singleton_self] at hcount
      change 0 < (m.within e).ids.count f.header.id at hself
      omega
  | cons f c ih =>
    cases e with
    | nil =>
      obtain rfl : f.fill (n.within c) = m := h
      have hself := hpos c
      have hid : n.id = f.header.id := hid
      rw [within, count_fill, hid, List.count_singleton_self, ← hid] at hcount
      omega
    | cons g e =>
      obtain ⟨k, before, after⟩ := f
      obtain ⟨l, before', after'⟩ := g
      obtain ⟨rfl, hchildren⟩ :
          k = l ∧ before ++ n.within c :: after = before' ++ m.within e :: after' := by
        simpa only [within, Frame.fill, group.injEq] using h
      rw [within, count_fill] at hcount
      have hidsOf : (idsOf (before ++ n.within c :: after)).count n.id ≤ 1 := by
        simp only [idsOf_append, idsOf, List.count_append]
        simp only at hcount
        omega
      obtain ⟨rfl, hin, rfl⟩ := split_inj hidsOf (n.id_mem_ids_within c)
        (hid ▸ m.id_mem_ids_within e) hchildren
      obtain ⟨rfl, rfl⟩ := ih (by omega) hin
      exact ⟨rfl, rfl⟩

variable {o p : Occurrence} {h k : Header} {ns ms : List Node} {j : Nat}

theorem occurrence_inj (hd : x.ids.Nodup) (ho : o.whole = x) (hp : p.whole = x)
    (hid : o.node.id = p.node.id) : o = p := by
  obtain ⟨c, n⟩ := o
  obtain ⟨e, m⟩ := p
  obtain rfl : n.within c = x := ho
  obtain ⟨rfl, rfl⟩ := within_inj (List.nodup_iff_count_le_one.1 hd _) hp.symm hid
  rfl

/-- With distinct ids, the id of a child tells the group and the index of the child. -/
theorem child_inj (hd : x.ids.Nodup) (ho : o.whole = x) (hp : p.whole = x)
    (hn : o.node = .group h ns) (hm : p.node = .group k ms) (hi : ns[i]? = some n)
    (hj : ms[j]? = some m) (hid : n.id = m.id) : o = p ∧ i = j := by
  obtain ⟨o', ho', hnode, hpath, hpos⟩ := exists_child ho hn hi
  obtain ⟨p', hp', hnode', hpath', hpos'⟩ := exists_child hp hm hj
  obtain rfl : o' = p' := occurrence_inj hd ho' hp' (by rw [hnode, hnode', hid])
  obtain ⟨hpaths, -⟩ := List.append_inj' (hpath.symm.trans hpath') rfl
  obtain ⟨-, hindices⟩ := List.append_inj' (hpos.symm.trans hpos') rfl
  obtain ⟨-, hids⟩ := List.append_inj' hpaths rfl
  exact ⟨occurrence_inj hd ho hp (List.cons.inj hids).1, (List.cons.inj hindices).1⟩

end Node

namespace Group

variable {t : Tree} {a b : Condition}

theorem id_mem_of_mem_conditions (h : a ∈ t.conditions) : a.id ∈ t.ids := by
  obtain ⟨o, ho, hoa⟩ := mem_conditions.1 h
  have hid : o.node.id ∈ t.toNode.ids := ho ▸ o.node.id_mem_ids_within o.around
  rwa [hoa] at hid

theorem condition_inj (hd : t.ids.Nodup) (ha : a ∈ t.conditions) (hb : b ∈ t.conditions)
    (hid : a.id = b.id) : a = b := by
  obtain ⟨o, ho, hoa⟩ := mem_conditions.1 ha
  obtain ⟨p, hp, hpb⟩ := mem_conditions.1 hb
  obtain rfl : o = p := Node.occurrence_inj hd ho hp (by rw [hoa, hpb, Node.id, Node.id, hid])
  exact Node.condition.inj (hoa.symm.trans hpb)

end Group

end Criteria
