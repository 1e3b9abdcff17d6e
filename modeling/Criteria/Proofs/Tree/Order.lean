import Criteria.Proofs.Tree.Context
import Mathlib.Data.List.Basic

namespace Criteria

/-- An occurrence of a node in another one: the groups around it, the outermost first. -/
structure Occurrence where
  around : List Frame
  node : Node

namespace Occurrence

/-- The node in which this one occurs. -/
def whole (o : Occurrence) : Node := o.node.within o.around

/-- The ids from the whole down to the node. -/
def path (o : Occurrence) : List String := o.around.map (·.header.id) ++ [o.node.id]

/-- The indices of the children on the way to the node. -/
def position (o : Occurrence) : List Nat := o.around.map (·.before.length)

/-- The same node with one more group around. -/
def enter (f : Frame) (o : Occurrence) : Occurrence := ⟨f :: o.around, o.node⟩

@[simp] theorem whole_enter (f : Frame) (o : Occurrence) : (o.enter f).whole = f.fill o.whole := rfl

@[simp] theorem path_enter (f : Frame) (o : Occurrence) :
    (o.enter f).path = f.header.id :: o.path := rfl

@[simp] theorem position_enter (f : Frame) (o : Occurrence) :
    (o.enter f).position = f.before.length :: o.position := rfl

end Occurrence

namespace Node

mutual

/-- All occurrences of nodes in a node, itself included, in document order. -/
def occurrences : Node → List Occurrence
  | .condition c => [⟨[], .condition c⟩]
  | .group h children => ⟨[], .group h children⟩ :: occurrencesAfter h [] children

/-- Those in the children of a group that follow some other children. -/
def occurrencesAfter (h : Header) (before : List Node) : List Node → List Occurrence
  | [] => []
  | n :: ns => n.occurrences.map (.enter ⟨h, before, ns⟩) ++ occurrencesAfter h (before ++ [n]) ns

end

variable {n m : Node} {h : Header} {before ns : List Node} {o p : Occurrence}

theorem mem_occurrencesAfter : o ∈ occurrencesAfter h before ns ↔ ∃ between m after p,
    ns = between ++ m :: after ∧ p ∈ m.occurrences ∧
      o = p.enter ⟨h, before ++ between, after⟩ := by
  induction ns generalizing before with
  | nil => simp [occurrencesAfter]
  | cons n ns ih =>
    rw [occurrencesAfter, List.mem_append, List.mem_map, ih]
    constructor
    · rintro (⟨p, hp, rfl⟩ | ⟨between, m, after, p, rfl, hp, rfl⟩)
      · exact ⟨[], n, ns, p, rfl, hp, by rw [List.append_nil]⟩
      · exact ⟨n :: between, m, after, p, rfl, hp, by simp⟩
    · rintro ⟨between, m, after, p, hns, hp, rfl⟩
      cases between with
      | nil =>
        obtain ⟨rfl, rfl⟩ := List.cons.inj hns
        exact .inl ⟨p, hp, by rw [List.append_nil]⟩
      | cons k between =>
        obtain ⟨rfl, rfl⟩ := List.cons.inj hns
        exact .inr ⟨between, m, after, p, rfl, hp, by simp⟩

theorem self_mem_occurrences (n : Node) : ⟨[], n⟩ ∈ n.occurrences := by
  cases n <;> exact List.mem_cons_self

theorem mem_occurrences_within (m : Node) (c : List Frame) :
    ⟨c, m⟩ ∈ (m.within c).occurrences := by
  induction c with
  | nil => exact m.self_mem_occurrences
  | cons f c ih =>
    rw [within, Frame.fill, occurrences]
    exact List.mem_cons_of_mem _ (mem_occurrencesAfter.2 ⟨f.before, m.within c, f.after, ⟨c, m⟩,
      rfl, ih, rfl⟩)

mutual

theorem whole_of_mem (n : Node) {o : Occurrence} (ho : o ∈ n.occurrences) : o.whole = n := by
  cases n with
  | condition c => rw [List.mem_singleton.1 ho]; rfl
  | group h children =>
    rcases List.mem_cons.1 ho with rfl | ho
    · rfl
    · exact whole_of_mem_after h [] children ho

theorem whole_of_mem_after (h : Header) (before ns : List Node) {o : Occurrence}
    (ho : o ∈ occurrencesAfter h before ns) : o.whole = .group h (before ++ ns) := by
  cases ns with
  | nil => cases ho
  | cons n ns =>
    rcases List.mem_append.1 ho with ho | ho
    · obtain ⟨p, hp, rfl⟩ := List.mem_map.1 ho
      rw [Occurrence.whole_enter, whole_of_mem n hp, Frame.fill]
    · rw [whole_of_mem_after h (before ++ [n]) ns ho, List.append_assoc, List.singleton_append]

end

/-- The occurrences are all there are: a node in groups around it that make up the whole. -/
theorem mem_occurrences : o ∈ n.occurrences ↔ o.whole = n := by
  refine ⟨whole_of_mem n, ?_⟩
  rintro rfl
  exact mem_occurrences_within o.node o.around

theorem position_of_mem_after (ho : o ∈ occurrencesAfter h before ns) :
    ∃ i is, o.position = i :: is ∧ before.length ≤ i := by
  obtain ⟨between, m, after, p, -, -, rfl⟩ := mem_occurrencesAfter.1 ho
  exact ⟨_, _, rfl, by simp⟩

mutual

theorem pairwise_occurrences (n : Node) :
    n.occurrences.Pairwise fun o p => o.position < p.position := by
  cases n with
  | condition c => exact List.pairwise_singleton ..
  | group h children =>
    refine List.pairwise_cons.2 ⟨fun o ho => ?_, pairwise_occurrencesAfter h [] children⟩
    obtain ⟨i, is, hi, -⟩ := position_of_mem_after ho
    rw [hi]
    exact List.nil_lt_cons i is

theorem pairwise_occurrencesAfter (h : Header) (before ns : List Node) :
    (occurrencesAfter h before ns).Pairwise fun o p => o.position < p.position := by
  cases ns with
  | nil => exact .nil
  | cons n ns =>
    refine List.pairwise_append.2 ⟨?_, pairwise_occurrencesAfter h (before ++ [n]) ns, ?_⟩
    · refine List.pairwise_map.2 ((pairwise_occurrences n).imp fun hlt => ?_)
      exact List.cons_lt_cons_iff.2 (.inr ⟨rfl, hlt⟩)
    · rintro o ho p hp
      obtain ⟨q, -, rfl⟩ := List.mem_map.1 ho
      obtain ⟨i, is, hi, hle⟩ := position_of_mem_after hp
      rw [hi, Occurrence.position_enter]
      rw [List.length_append, List.length_singleton] at hle
      exact List.cons_lt_cons_iff.2 (.inl hle)

end

mutual

theorem filterMap_occurrences (n : Node) :
    n.occurrences.filterMap (·.node.toCondition?) = n.conditions := by
  cases n with
  | condition c => rfl
  | group h children => exact filterMap_occurrencesAfter h [] children

theorem filterMap_occurrencesAfter (h : Header) (before ns : List Node) :
    (occurrencesAfter h before ns).filterMap (·.node.toCondition?) = conditionsOf ns := by
  cases ns with
  | nil => rfl
  | cons n ns =>
    rw [occurrencesAfter, List.filterMap_append, List.filterMap_map,
      filterMap_occurrencesAfter h (before ++ [n]) ns, conditionsOf, ← filterMap_occurrences n]
    rfl

end

theorem mem_conditions {c : Condition} :
    c ∈ n.conditions ↔ ∃ o : Occurrence, o.whole = n ∧ o.node = .condition c := by
  rw [← filterMap_occurrences, List.mem_filterMap]
  refine exists_congr fun o => and_congr mem_occurrences ?_
  cases o.node <;> simp [toCondition?]

theorem exists_child {children : List Node} {i : Nat} (ho : o.whole = m)
    (hn : o.node = .group h children) (hi : children[i]? = some n) :
    ∃ p : Occurrence, p.whole = m ∧ p.node = n ∧ p.path = o.path ++ [n.id] ∧
      p.position = o.position ++ [i] := by
  obtain ⟨hlt, rfl⟩ := List.getElem?_eq_some_iff.1 hi
  obtain ⟨around, node⟩ := o
  obtain rfl : node = .group h children := hn
  refine ⟨⟨around ++ [⟨h, children.take i, children.drop (i + 1)⟩], children[i]⟩, ?_, rfl, ?_, ?_⟩
  · rw [← ho, Occurrence.whole, Occurrence.whole, within_append]
    simp only [within, Frame.fill, List.getElem_cons_drop, List.take_append_drop]
  · simp [Occurrence.path, Node.id]
  · simp [Occurrence.position, Nat.min_eq_left (Nat.le_of_lt hlt)]

end Node

theorem Group.mem_conditions {t : Tree} {c : Condition} :
    c ∈ t.conditions ↔ ∃ o : Occurrence, o.whole = t.toNode ∧ o.node = .condition c :=
  Node.mem_conditions (n := t.toNode)

end Criteria
