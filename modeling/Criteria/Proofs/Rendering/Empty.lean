import Criteria.Proofs.Rendering

namespace Criteria

variable {α : Type} {r : Rendering α} {empty : α}

/-- A rendering in which an output is empty only if it is made of nothing. -/
structure Rendering.Visible (r : Rendering α) (empty : α) : Prop where
  condition (c : Condition) : r.condition c ≠ empty
  join {c : Combinator} {a : α} (rest : List (Combinator × α)) (h : a ≠ empty) :
    r.join c a rest ≠ empty
  nest {a : α} (h : a ≠ empty) : r.nest a ≠ empty
  negate {a : α} (h : a ≠ empty) : r.negate a ≠ empty

theorem Rendering.Visible.combine (hr : r.Visible empty) {h : Header}
    {ps : List (α × Combinator)} (hps : ∀ p ∈ ps, p.1 ≠ empty) {a : α}
    (ha : r.combine h ps = some a) : a ≠ empty := by
  obtain ⟨⟨first, rest⟩, hlink, rfl⟩ := Option.map_eq_some_iff.1 ha
  have hfirst : first ≠ empty := by
    have hmem : first ∈ ps.map (·.1) := (link_eq_some hlink).1 ▸ List.mem_cons_self
    obtain ⟨p, hp, rfl⟩ := List.mem_map.1 hmem
    exact hps p hp
  dsimp only
  split
  · exact hr.negate (hr.join rest hfirst)
  · exact hr.join rest hfirst

namespace Node

mutual

theorem render?_visible (hr : r.Visible empty) (n : Node) : n.render? r ≠ some empty := by
  cases n with
  | condition c =>
    intro h
    exact hr.condition c (Option.some.inj h)
  | group h children =>
    intro he
    obtain ⟨a, ha, hempty⟩ := Option.map_eq_some_iff.1 he
    have hne := hr.combine (parts_visible hr h children) ha
    split at hempty
    · exact hne hempty
    · exact hr.nest hne hempty

theorem parts_visible (hr : r.Visible empty) (h : Header) (ns : List Node) :
    ∀ p ∈ parts r h ns, p.1 ≠ empty := by
  cases ns with
  | nil => exact fun p hp => nomatch hp
  | cons n ns =>
    have hn := render?_visible hr n
    have hns := parts_visible hr h ns
    rw [parts]
    split
    · next a ha =>
      refine List.forall_mem_cons.2 ⟨?_, hns⟩
      rintro rfl
      exact hn ha
    · exact hns

end

variable [DecidableEq α]

mutual

/-- The output of a node inside a group where a child is left out if its output is empty, and the
output of a group is empty if no child is left. -/
def output (r : Rendering α) (empty : α) : Node → α
  | .condition c => r.condition c
  | .group h children =>
    match r.combine h (outputs r empty h children) with
    | some a => if h.negated then a else r.nest a
    | none => empty

/-- The outputs of the children that are kept, each with the combinator after it. -/
def outputs (r : Rendering α) (empty : α) (h : Header) : List Node → List (α × Combinator)
  | [] => []
  | n :: ns =>
    let a := n.output r empty
    if a = empty then outputs r empty h ns
    else (a, n.edge.getD h.combinator) :: outputs r empty h ns

end

mutual

theorem output_eq (hr : r.Visible empty) (n : Node) :
    n.output r empty = (n.render? r).getD empty := by
  cases n with
  | condition c => rfl
  | group h children =>
    rw [output, outputs_eq hr h children, render?]
    cases r.combine h (parts r h children) <;> rfl

theorem outputs_eq (hr : r.Visible empty) (h : Header) (ns : List Node) :
    outputs r empty h ns = parts r h ns := by
  cases ns with
  | nil => rfl
  | cons n ns =>
    have hne := render?_visible hr n
    rw [outputs, output_eq hr n, outputs_eq hr h ns, parts]
    cases hn : n.render? r with
    | none => exact if_pos rfl
    | some a =>
      rw [hn] at hne
      exact if_neg fun ha => hne (congrArg some ha)

end

end Node

namespace Group

variable [DecidableEq α]

/-- The output of a tree where groups are told to be without conditions by their output alone. -/
def output (r : Rendering α) (empty : α) (t : Tree) : α :=
  (r.combine t.header (Node.outputs r empty t.header t.children)).getD empty

theorem output_eq (hr : r.Visible empty) (t : Tree) :
    t.output r empty = (t.render? r).getD empty := by
  rw [output, Node.outputs_eq hr, render?]

theorem output_eq_empty_iff (hr : r.Visible empty) (t : Tree) :
    t.output r empty = empty ↔ t.conditions = [] := by
  rw [output_eq hr, ← render?_eq_none (r := r)]
  cases ht : t.render? r with
  | none => exact iff_of_true rfl rfl
  | some a =>
    have hne := hr.combine (Node.parts_visible hr t.header t.children) ht
    exact iff_of_false hne (Option.some_ne_none a)

end Group

end Criteria
