import Criteria.Proofs.Tree.Position
import Mathlib.Data.List.Nodup

namespace Criteria

structure Entry where
  /-- The id of the group that has the node for a child. -/
  parent : Option String
  /-- The node without its children. -/
  node : Node
  deriving DecidableEq

namespace Node

mutual

/-- The entries of a node and of all below it, in document order. -/
def entries (parent : Option String) : Node → List Entry
  | .condition c => [⟨parent, .condition c⟩]
  | .group h children => ⟨parent, .group h []⟩ :: entriesOf h.id children

def entriesOf (parent : String) : List Node → List Entry
  | [] => []
  | n :: ns => n.entries (some parent) ++ entriesOf parent ns

end

/-- The nodes of a tree without their children, wherever they stand. -/
def contents (n : Node) : List Node := (n.entries none).map (·.node)

/-- The ids of the groups among them. -/
def groupIds (n : Node) : List String := n.contents.filterMap fun m => m.toGroup?.map (·.id)

variable {n m : Node} {c : List Frame} {p : Option String} {e : Entry}

theorem contents_eq (p : Option String) (n : Node) :
    (n.entries p).map (·.node) = n.contents := by
  cases n <;> rfl

theorem entriesOf_append (parent : String) (ns ms : List Node) :
    entriesOf parent (ns ++ ms) = entriesOf parent ns ++ entriesOf parent ms := by
  induction ns with
  | nil => rfl
  | cons n ns ih => simp only [List.cons_append, entriesOf, ih, List.append_assoc]

mutual

theorem map_id_entries (p : Option String) (n : Node) :
    (n.entries p).map (·.node.id) = n.ids := by
  cases n with
  | condition c => rfl
  | group h children =>
    rw [entries, List.map_cons, map_id_entriesOf h.id children]
    rfl

theorem map_id_entriesOf (parent : String) (ns : List Node) :
    (entriesOf parent ns).map (·.node.id) = idsOf ns := by
  cases ns with
  | nil => rfl
  | cons n ns =>
    rw [entriesOf, List.map_append, map_id_entries (some parent) n, map_id_entriesOf parent ns]
    rfl

end

theorem map_id_contents (n : Node) : n.contents.map (·.id) = n.ids := by
  rw [contents, List.map_map, ← map_id_entries none n]
  rfl

mutual

theorem conditions_entries (p : Option String) (n : Node) :
    (n.entries p).filterMap (·.node.toCondition?) = n.conditions := by
  cases n with
  | condition c => rfl
  | group h children => exact conditions_entriesOf h.id children

theorem conditions_entriesOf (parent : String) (ns : List Node) :
    (entriesOf parent ns).filterMap (·.node.toCondition?) = conditionsOf ns := by
  cases ns with
  | nil => rfl
  | cons n ns =>
    rw [entriesOf, List.filterMap_append, conditions_entries (some parent) n,
      conditions_entriesOf parent ns]
    rfl

end

theorem conditions_eq (n : Node) : n.conditions = n.contents.filterMap toCondition? := by
  rw [contents, List.filterMap_map, ← conditions_entries none n]
  rfl

mutual

theorem exists_within_of_entry (n : Node) {p : Option String} (h : e ∈ n.entries p) :
    ∃ (m : Node) (d : List Frame), n = m.within d ∧ e.node = m.bare := by
  cases n with
  | condition c =>
    obtain rfl := List.mem_singleton.1 h
    exact ⟨.condition c, [], rfl, rfl⟩
  | group k children =>
    rcases List.mem_cons.1 h with rfl | h
    · exact ⟨.group k children, [], rfl, rfl⟩
    · obtain ⟨before, after, m, d, rfl, hm⟩ := exists_within_of_entriesOf children h
      exact ⟨m, ⟨k, before, after⟩ :: d, rfl, hm⟩

theorem exists_within_of_entriesOf (ns : List Node) {parent : String}
    (h : e ∈ entriesOf parent ns) :
    ∃ (before after : List Node) (m : Node) (d : List Frame),
      ns = before ++ m.within d :: after ∧ e.node = m.bare := by
  cases ns with
  | nil => cases h
  | cons n ns =>
    rcases List.mem_append.1 h with h | h
    · obtain ⟨m, d, rfl, hm⟩ := exists_within_of_entry n h
      exact ⟨[], ns, m, d, rfl, hm⟩
    · obtain ⟨before, after, m, d, rfl, hm⟩ := exists_within_of_entriesOf ns h
      exact ⟨n :: before, after, m, d, rfl, hm⟩

end

theorem exists_entry_within (m : Node) (d : List Frame) (p : Option String) :
    ∃ q, ⟨q, m.bare⟩ ∈ (m.within d).entries p := by
  induction d generalizing p with
  | nil => cases m <;> exact ⟨p, List.mem_cons_self⟩
  | cons f d ih =>
    obtain ⟨q, hq⟩ := ih (some f.header.id)
    refine ⟨q, List.mem_cons_of_mem _ ?_⟩
    rw [entriesOf_append, entriesOf]
    exact List.mem_append_right _ (List.mem_append_left _ hq)

/-- What is left of a tree when the node in a frame is taken out. -/
def without (c : List Frame) (k : Frame) : Node :=
  (Node.group k.header (k.before ++ k.after)).within c

/-- The entries of a node stand together, and the ones around it do not depend on it. -/
theorem exists_entries_within (c : List Frame) (k : Frame) (p : Option String) :
    ∃ l r, (without c k).entries p = l ++ r ∧
      ∀ n : Node, (n.within (c ++ [k])).entries p = l ++ n.entries (some k.header.id) ++ r := by
  induction c generalizing p with
  | nil =>
    refine ⟨⟨p, .group k.header []⟩ :: entriesOf k.header.id k.before,
      entriesOf k.header.id k.after, ?_, fun n => ?_⟩
    · rw [without, within, entries, entriesOf_append, List.cons_append]
    · simp only [List.nil_append, within, Frame.fill, entries, entriesOf_append, entriesOf,
        List.cons_append, List.append_assoc]
  | cons f c ih =>
    obtain ⟨l, r, hwithout, hwithin⟩ := ih (some f.header.id)
    refine ⟨⟨p, .group f.header []⟩ :: entriesOf f.header.id f.before ++ l,
      r ++ entriesOf f.header.id f.after, ?_, fun n => ?_⟩
    · change (f.fill (without c k)).entries p = _
      simp only [Frame.fill, entries, entriesOf_append, entriesOf, hwithout, List.cons_append,
        List.append_assoc]
    · simp only [List.cons_append, within, Frame.fill, entries, entriesOf_append, entriesOf,
        hwithin, List.append_assoc]

theorem perm_contents (n : Node) (c : List Frame) (k : Frame) :
    (n.within (c ++ [k])).contents.Perm (n.contents ++ (without c k).contents) := by
  obtain ⟨l, r, hwithout, hwithin⟩ := exists_entries_within c k none
  rw [contents, hwithin, ← contents_eq none (without c k), hwithout, List.map_append,
    List.map_append, List.map_append, contents_eq, List.append_assoc]
  exact List.perm_append_comm_assoc _ _ _

theorem perm_ids_within (n : Node) (c : List Frame) (k : Frame) :
    (n.within (c ++ [k])).ids.Perm (n.ids ++ (without c k).ids) := by
  have hperm := (perm_contents n c k).map (·.id)
  rwa [List.map_append, map_id_contents, map_id_contents, map_id_contents] at hperm

theorem filter_entries (hd : (n.within (c ++ [k])).ids.Nodup) (p : Option String) :
    ((n.within (c ++ [k])).entries p).filter (fun e => e.node.id ∉ n.ids)
      = (without c k).entries p := by
  obtain ⟨l, r, hwithout, hwithin⟩ := exists_entries_within c k p
  have hids : (without c k).ids = (l ++ r).map (·.node.id) := by
    rw [← hwithout, map_id_entries]
  have hdisjoint : ∀ e ∈ l ++ r, e.node.id ∉ n.ids := by
    intro e he hin
    refine List.disjoint_of_nodup_append ((perm_ids_within n c k).nodup_iff.1 hd) hin ?_
    rw [hids]
    exact List.mem_map_of_mem he
  have hself : ∀ e ∈ n.entries (some k.header.id), ¬ e.node.id ∉ n.ids := by
    intro e he
    rw [not_not, ← map_id_entries (some k.header.id) n]
    exact List.mem_map_of_mem he
  rw [hwithin, hwithout, List.filter_append, List.filter_append]
  rw [List.filter_eq_self.2 fun e he => decide_eq_true (hdisjoint e (List.mem_append_left r he)),
    List.filter_eq_self.2 fun e he => decide_eq_true (hdisjoint e (List.mem_append_right l he)),
    List.filter_eq_nil_iff.2 fun e he => by simpa using hself e he, List.append_nil]

end Node

/-- The entries of a tree; the root is no child of a group. -/
def Group.entries (t : Tree) : List Entry := t.toNode.entries none

end Criteria
