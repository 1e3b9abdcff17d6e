import Criteria.Edit.Place

namespace Criteria

/-- A group around a place: its header, and its children before and after the place. -/
structure Frame where
  header : Header
  before : List Node
  after : List Node

def Frame.fill (f : Frame) (n : Node) : Node := .group f.header (f.before ++ n :: f.after)

namespace Node

/-- A node within groups, the outermost first. -/
def within (n : Node) : List Frame → Node
  | [] => n
  | f :: c => f.fill (n.within c)

theorem within_append (n : Node) (c d : List Frame) :
    n.within (c ++ d) = (n.within d).within c := by
  induction c with
  | nil => rfl
  | cons f c ih => simp only [List.cons_append, within, ih]

/-- The ids that come before a place in document order, the ones of the groups around it included.
-/
def idsBefore : List Frame → List String
  | [] => []
  | f :: c => f.header.id :: idsOf f.before ++ idsBefore c

/-- The ids that come after a place in document order. -/
def idsAfter : List Frame → List String
  | [] => []
  | f :: c => idsAfter c ++ idsOf f.after

theorem idsOf_append (ns ms : List Node) : idsOf (ns ++ ms) = idsOf ns ++ idsOf ms := by
  induction ns with
  | nil => rfl
  | cons n ns ih => simp only [List.cons_append, idsOf, ih, List.append_assoc]

theorem ids_within (n : Node) (c : List Frame) :
    (n.within c).ids = idsBefore c ++ n.ids ++ idsAfter c := by
  induction c with
  | nil => simp only [within, idsBefore, idsAfter, List.nil_append, List.append_nil]
  | cons f c ih =>
    simp only [within, Frame.fill, ids, idsOf_append, idsOf, ih, idsBefore, idsAfter,
      List.cons_append, List.append_assoc]

theorem id_mem_ids (n : Node) : n.id ∈ n.ids := by
  cases n <;> exact List.mem_cons_self

variable {id : String} {n m : Node} {ns : List Node} {c : List Frame} {g new : Group}

mutual

theorem find?_eq_none (n : Node) : n.find? id = none ↔ id ∉ n.ids := by
  cases n with
  | condition d => simp [find?, ids, eq_comm]
  | group k children =>
    by_cases hk : k.id = id
    · simp [find?, ids, hk]
    · simp [find?, ids, hk, Ne.symm hk, findAmong?_eq_none children]

theorem findAmong?_eq_none (ns : List Node) : findAmong? id ns = none ↔ id ∉ idsOf ns := by
  cases ns with
  | nil => simp [findAmong?, idsOf]
  | cons n ns => simp [findAmong?, idsOf, find?_eq_none n, findAmong?_eq_none ns]

end

theorem find?_id (n : Node) : n.find? n.id = some n := by
  cases n <;> simp only [find?, Node.id, if_true]

theorem findAmong?_append_of_not_mem (h : id ∉ idsOf ns) (ms : List Node) :
    findAmong? id (ns ++ ms) = findAmong? id ms := by
  induction ns with
  | nil => rfl
  | cons n ns ih =>
    simp only [idsOf, List.mem_append, not_or] at h
    simp only [List.cons_append, findAmong?, (find?_eq_none n).2 h.1, Option.none_or, ih h.2]

theorem find?_within (hc : id ∉ idsBefore c) (h : n.find? id = some m) :
    (n.within c).find? id = some m := by
  induction c with
  | nil => exact h
  | cons f c ih =>
    simp only [idsBefore, List.cons_append, List.mem_cons, List.mem_append, not_or] at hc
    simp only [within, Frame.fill, find?, if_neg (Ne.symm hc.1),
      findAmong?_append_of_not_mem hc.2.1, findAmong?, ih hc.2.2, Option.some_or]

mutual

/-- What a search finds stands in a context in which nothing before it has the id. -/
theorem exists_within_of_find? (n : Node) (h : n.find? id = some m) :
    m.id = id ∧ ∃ c, n = m.within c ∧ id ∉ idsBefore c := by
  cases n with
  | condition d =>
    simp only [find?] at h
    split at h
    · next hd =>
      cases h
      exact ⟨hd, [], rfl, List.not_mem_nil⟩
    · cases h
  | group k children =>
    simp only [find?] at h
    split at h
    · next hk =>
      cases h
      exact ⟨hk, [], rfl, List.not_mem_nil⟩
    · next hk =>
      obtain ⟨hm, before, after, c, rfl, hb, hc⟩ := exists_within_of_findAmong? children h
      refine ⟨hm, ⟨k, before, after⟩ :: c, rfl, ?_⟩
      simp only [idsBefore, List.cons_append, List.mem_cons, List.mem_append, not_or]
      exact ⟨Ne.symm hk, hb, hc⟩

theorem exists_within_of_findAmong? (ns : List Node) (h : findAmong? id ns = some m) :
    m.id = id ∧ ∃ before after c, ns = before ++ m.within c :: after ∧
      id ∉ idsOf before ∧ id ∉ idsBefore c := by
  cases ns with
  | nil => cases h
  | cons n ns =>
    simp only [findAmong?, Option.or_eq_some_iff] at h
    rcases h with hn | ⟨hn, hns⟩
    · obtain ⟨hm, c, rfl, hc⟩ := exists_within_of_find? n hn
      exact ⟨hm, [], ns, c, rfl, List.not_mem_nil, hc⟩
    · obtain ⟨hm, before, after, c, rfl, hb, hc⟩ := exists_within_of_findAmong? ns hns
      refine ⟨hm, n :: before, after, c, rfl, ?_, hc⟩
      simp only [idsOf, List.mem_append, not_or]
      exact ⟨(find?_eq_none n).1 hn, hb⟩

end

mutual

theorem replace?_of_not_mem (n : Node) (h : id ∉ n.ids) : n.replace? id new = none := by
  cases n with
  | condition d => rfl
  | group k children =>
    simp only [ids, List.mem_cons, not_or] at h
    simp only [replace?, if_neg (Ne.symm h.1), replaceAmong?_of_not_mem children h.2,
      Option.map_none]

theorem replaceAmong?_of_not_mem (ns : List Node) (h : id ∉ idsOf ns) :
    replaceAmong? id new ns = none := by
  cases ns with
  | nil => rfl
  | cons n ns =>
    simp only [idsOf, List.mem_append, not_or] at h
    simp only [replaceAmong?, replace?_of_not_mem n h.1, replaceAmong?_of_not_mem ns h.2,
      Option.map_none]

end

theorem replaceAmong?_append_of_not_mem (h : id ∉ idsOf ns) (ms : List Node) :
    replaceAmong? id new (ns ++ ms) = (replaceAmong? id new ms).map (ns ++ ·) := by
  induction ns with
  | nil => simp only [List.nil_append, Option.map_id']
  | cons n ns ih =>
    simp only [idsOf, List.mem_append, not_or] at h
    simp only [List.cons_append, replaceAmong?, replace?_of_not_mem n h.1, ih h.2, Option.map_map]
    rfl

theorem replace?_within (hc : g.id ∉ idsBefore c) :
    (g.toNode.within c).replace? g.id new = some (new.toNode.within c) := by
  induction c with
  | nil => simp only [within, Group.toNode, replace?, Group.id, if_true]
  | cons f c ih =>
    simp only [idsBefore, List.cons_append, List.mem_cons, List.mem_append, not_or] at hc
    simp only [within, Frame.fill, replace?, if_neg (Ne.symm hc.1),
      replaceAmong?_append_of_not_mem hc.2.1, replaceAmong?, ih hc.2.2, Option.map_some]

end Node

namespace Group

variable {t g new : Group} {c : List Frame} {id : String}

theorem toNode_inj : t.toNode = g.toNode ↔ t = g := by
  cases t
  cases g
  simp [toNode]

theorem toGroup?_toNode (g : Group) : g.toNode.toGroup? = some g := rfl

theorem exists_toNode_eq_within (g : Group) (c : List Frame) :
    ∃ t : Group, t.toNode = g.toNode.within c := by
  cases c with
  | nil => exact ⟨g, rfl⟩
  | cons f c => exact ⟨⟨f.header, f.before ++ g.toNode.within c :: f.after⟩, rfl⟩

theorem find?_toNode (t : Tree) (id : String) :
    t.toNode.find? id = if t.id = id then some t.toNode else t.find? id := rfl

theorem replace_within (h : t.toNode = g.toNode.within c) (hc : g.id ∉ Node.idsBefore c) :
    (t.replace g.id new).toNode = new.toNode.within c := by
  obtain ⟨t', ht'⟩ := new.exists_toNode_eq_within c
  simp only [replace, h, Node.replace?_within hc, Option.bind_some, ← ht', toGroup?_toNode,
    Option.getD_some]

end Group

end Criteria
