import Criteria.Proofs.Tree.Order
import Mathlib.Data.List.Forall2

namespace Criteria

/-- What a condition tests, apart from its id and its edge. -/
def Condition.test (c : Condition) : String × Operator × Value := (c.field, c.operator, c.value)

theorem Condition.test_eq_iff {c d : Condition} :
    c.test = d.test ↔ c.field = d.field ∧ c.operator = d.operator ∧ c.value = d.value := by
  simp only [test, Prod.mk.injEq]

namespace Node

mutual

/-- Nodes that differ at most in their ids and in the edges after last children, given which ids may
stand for which. The edges of the two nodes themselves do not matter either. -/
inductive Alike (R : String → String → Prop) : Node → Node → Prop
  | condition {c d : Condition} (id : R c.id d.id) (test : c.test = d.test) :
    Alike R (.condition c) (.condition d)
  | group {h k : Header} {ns ms : List Node} (id : R h.id k.id)
    (combinator : h.combinator = k.combinator) (negated : h.negated = k.negated)
    (children : AllAlike R ns ms) : Alike R (.group h ns) (.group k ms)

/-- The children of groups that differ in no more than that. -/
inductive AllAlike (R : String → String → Prop) : List Node → List Node → Prop
  | nil : AllAlike R [] []
  | last {n m : Node} (node : Alike R n m) : AllAlike R [n] [m]
  | cons {n m : Node} {ns ms : List Node} (node : Alike R n m) (edge : n.edge = m.edge)
    (rest : AllAlike R ns ms) : AllAlike R (n :: ns) (m :: ms)

end

variable {R : String → String → Prop} {n m : Node} {ns ms : List Node}

theorem Alike.id_rel (h : Alike R n m) : R n.id m.id := by
  cases h with
  | condition hid _ => exact hid
  | group hid _ _ _ => exact hid

namespace AllAlike

theorem forall₂ : {ns ms : List Node} → AllAlike R ns ms → List.Forall₂ (Alike R) ns ms
  | _, _, .nil => .nil
  | _, _, .last h => .cons h .nil
  | _, _, .cons h _ hs => .cons h (forall₂ hs)

theorem length_eq (h : AllAlike R ns ms) : ns.length = ms.length := h.forall₂.length_eq

theorem getElem? (h : AllAlike R ns ms) (i : Nat) : Option.Rel (Alike R) ns[i]? ms[i]? := by
  have hs := h.forall₂
  by_cases hi : i < ns.length
  · have hi' : i < ms.length := h.length_eq ▸ hi
    rw [List.getElem?_eq_getElem hi, List.getElem?_eq_getElem hi']
    exact .some (hs.get hi hi')
  · have hi' : ¬ i < ms.length := h.length_eq ▸ hi
    rw [List.getElem?_eq_none (Nat.le_of_not_lt hi), List.getElem?_eq_none (Nat.le_of_not_lt hi')]
    exact .none

theorem edge_eq (h : AllAlike R ns ms) {i : Nat} (hi : i + 1 < ns.length) :
    ns[i]?.map Node.edge = ms[i]?.map Node.edge := by
  induction i generalizing ns ms with
  | zero =>
    cases h with
    | nil => cases hi
    | last h => exact absurd hi (Nat.lt_irrefl 1)
    | cons h he hs => exact congrArg some he
  | succ i ih =>
    cases h with
    | nil => cases hi
    | last h => exact absurd (Nat.lt_of_succ_lt_succ hi) (Nat.not_lt_zero _)
    | cons h he hs => exact ih hs (Nat.lt_of_succ_lt_succ hi)

end AllAlike

end Node

/-- Occurrences at one position, the ones along one path as well, of nodes that are alike. -/
structure Occurrence.Alike (R : String → String → Prop) (o p : Occurrence) : Prop where
  position : o.position = p.position
  path : List.Forall₂ R o.path p.path
  node : Node.Alike R o.node p.node

namespace Node

variable {R : String → String → Prop}

mutual

theorem forall₂_occurrences (n : Node) {m : Node} (h : Alike R n m) :
    List.Forall₂ (Occurrence.Alike R) n.occurrences m.occurrences := by
  have hself : Occurrence.Alike R ⟨[], n⟩ ⟨[], m⟩ := ⟨rfl, .cons h.id_rel .nil, h⟩
  cases n with
  | condition c =>
    cases h with
    | condition hid htest => exact .cons hself .nil
  | group k ns =>
    cases h with
    | group hid _ _ hs => exact .cons hself (forall₂_occurrencesAfter ns hid rfl hs.forall₂)

theorem forall₂_occurrencesAfter {h k : Header} {before before' : List Node} (ns : List Node)
    {ms : List Node} (hid : R h.id k.id) (hlen : before.length = before'.length)
    (hs : List.Forall₂ (Alike R) ns ms) : List.Forall₂ (Occurrence.Alike R)
      (occurrencesAfter h before ns) (occurrencesAfter k before' ms) := by
  cases hs with
  | nil => exact .nil
  | @cons n m ns ms hn hs =>
    -- of the children before an occurrence, only their number gets into its position
    have hlen' : (before ++ [n]).length = (before' ++ [m]).length := by simp [hlen]
    refine List.rel_append ?_ (forall₂_occurrencesAfter ns hid hlen' hs)
    refine List.rel_map (fun o p ho => ?_) (forall₂_occurrences n hn)
    exact ⟨congrArg₂ List.cons hlen ho.position, .cons hid ho.path, ho.node⟩

end

end Node

end Criteria
