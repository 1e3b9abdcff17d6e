import Criteria.Tree.Lookup

namespace Criteria

namespace Combinator

/-- The value of a row of truth values, each with the combinator after it, by AND before OR. -/
def byPrecedence : List (Bool × Combinator) → Bool
  | [] => true
  | (b, c) :: ps => go b c ps
where
  go (b : Bool) : Combinator → List (Bool × Combinator) → Bool
    | _, [] => b
    | .and, (c, k) :: ps => go (b && c) k ps
    | .or, (c, k) :: ps => b || go c k ps

/-- What all combinators of a row are, or the default if they differ or there are none. -/
def common (default : Combinator) (cs : List Combinator) : Combinator :=
  if cs ≠ [] ∧ ∀ c ∈ cs, c = .and then .and
  else if cs ≠ [] ∧ ∀ c ∈ cs, c = .or then .or
  else default

/-- The value of a row of truth values, each with the combinator after it, by the common one. -/
def byCommon (default : Combinator) (ps : List (Bool × Combinator)) : Bool :=
  match common default (ps.dropLast.map (·.2)) with
  | .and => ps.all (·.1)
  | .or => ps.any (·.1)

end Combinator

namespace Node

mutual

/-- The truth value of a node: a group joins the values of its children in some way, and a negated
group says the opposite. -/
def value (join : Combinator → List (Bool × Combinator) → Bool) (v : Condition → Bool) :
    Node → Bool
  | .condition c => v c
  | .group h children =>
    let joined := join h.combinator (values join v h children)
    if h.negated then !joined else joined

/-- The values of the children that hold a condition, each with the combinator after it; the other
children do not count. -/
def values (join : Combinator → List (Bool × Combinator) → Bool) (v : Condition → Bool)
    (h : Header) : List Node → List (Bool × Combinator)
  | [] => []
  | n :: ns =>
    if n.conditions = [] then values join v h ns
    else (n.value join v, n.edge.getD h.combinator) :: values join v h ns

end

end Node

/-- What a tree says if the combinators between its nodes count as they stand, AND before OR. -/
def Group.holds (v : Condition → Bool) (t : Tree) : Bool :=
  t.toNode.value (fun _ ps => Combinator.byPrecedence ps) v

namespace Node

variable {join : Combinator → List (Bool × Combinator) → Bool} {v : Condition → Bool}

/-- The combinators between the children that hold a condition. -/
def connectors (h : Header) (ns : List Node) : List Combinator :=
  ((ns.filter (·.conditions ≠ [])).map fun n => n.edge.getD h.combinator).dropLast

theorem connectors_eq (h : Header) (ns : List Node) :
    connectors h ns = ((values join v h ns).map (·.2)).dropLast := by
  rw [connectors]
  congr 1
  induction ns with
  | nil => rfl
  | cons n ns ih => by_cases hn : n.conditions = [] <;> simpa [values, hn] using ih

mutual

/-- Whether no group joins the children that hold a condition by different combinators. -/
def IsUniform : Node → Prop
  | .condition _ => True
  | .group h children =>
    (∀ c ∈ connectors h children, ∀ d ∈ connectors h children, c = d) ∧ AllUniform children

def AllUniform : List Node → Prop
  | [] => True
  | n :: ns => n.IsUniform ∧ AllUniform ns

end

end Node

namespace Combinator

variable {ps : List (Bool × Combinator)} {c : Combinator}

theorem common_of_forall_eq {cs : List Combinator} {k : Combinator} (default : Combinator)
    (hne : cs ≠ []) (h : ∀ d ∈ cs, d = k) : common default cs = k := by
  cases k with
  | and => exact if_pos ⟨hne, h⟩
  | or =>
    obtain ⟨d, hd⟩ := List.exists_mem_of_ne_nil cs hne
    have hand : ¬ (cs ≠ [] ∧ ∀ c ∈ cs, c = .and) := by
      rintro ⟨-, hand⟩
      have heq : Combinator.and = .or := (hand d hd).symm.trans (h d hd)
      cases heq
    rw [common, if_neg hand, if_pos ⟨hne, h⟩]

theorem uniform?_getD (default : Combinator) (cs : List Combinator) :
    (uniform? cs).getD default = common default cs := by
  cases cs with
  | nil => rfl
  | cons d cs =>
    rw [uniform?]
    split
    · next h =>
      have hall : ∀ c ∈ d :: cs, c = d := by simpa using h
      exact (common_of_forall_eq default (List.cons_ne_nil d cs) hall).symm
    · next h =>
      have hnot (k : Combinator) : ¬ (d :: cs ≠ [] ∧ ∀ c ∈ d :: cs, c = k) := by
        rintro ⟨-, hall⟩
        rw [List.forall_mem_cons] at hall
        obtain ⟨rfl, hall⟩ := hall
        exact h (by simpa using hall)
      rw [common, if_neg (hnot .and), if_neg (hnot .or)]
      rfl

theorem byPrecedence_go_and (b : Bool) {c : Combinator}
    (h : ∀ d ∈ (c :: ps.map (·.2)).dropLast, d = .and) :
    byPrecedence.go b c ps = (b && ps.all (·.1)) := by
  induction ps generalizing b c with
  | nil => cases c <;> simp [byPrecedence.go]
  | cons p ps ih =>
    rw [List.map_cons, List.dropLast_cons_cons, List.forall_mem_cons] at h
    obtain ⟨rfl, h⟩ := h
    rw [byPrecedence.go, ih _ h, List.all_cons, Bool.and_assoc]

theorem byPrecedence_go_or (b : Bool) {c : Combinator}
    (h : ∀ d ∈ (c :: ps.map (·.2)).dropLast, d = .or) :
    byPrecedence.go b c ps = (b || ps.any (·.1)) := by
  induction ps generalizing b c with
  | nil => cases c <;> simp [byPrecedence.go]
  | cons p ps ih =>
    rw [List.map_cons, List.dropLast_cons_cons, List.forall_mem_cons] at h
    obtain ⟨rfl, h⟩ := h
    rw [byPrecedence.go, ih _ h, List.any_cons]

/-- Where all combinators are equal, the two ways to join truth values agree. -/
theorem byPrecedence_eq_byCommon (hne : ps ≠ []) (c : Combinator)
    (h : ∀ d ∈ (ps.map (·.2)).dropLast, ∀ e ∈ (ps.map (·.2)).dropLast, d = e) :
    byPrecedence ps = byCommon c ps := by
  have hk : ∀ d ∈ (ps.map (·.2)).dropLast, d = common c (ps.map (·.2)).dropLast := fun d hd =>
    (common_of_forall_eq c (List.ne_nil_of_mem hd) fun e he => h e he d hd).symm
  rw [byCommon, List.map_dropLast]
  generalize common c (ps.map (·.2)).dropLast = k at hk
  cases ps with
  | nil => exact absurd rfl hne
  | cons p ps =>
    cases k with
    | and => exact byPrecedence_go_and p.1 hk
    | or => exact byPrecedence_go_or p.1 hk

end Combinator

namespace Node

variable {v : Condition → Bool}

theorem values_eq_nil {join : Combinator → List (Bool × Combinator) → Bool} {h : Header}
    {ns : List Node} : values join v h ns = [] ↔ conditionsOf ns = [] := by
  induction ns with
  | nil => simp [values, conditionsOf]
  | cons n ns ih => by_cases hn : n.conditions = [] <;> simp [values, conditionsOf, hn, ih]

mutual

theorem value_of_isUniform (n : Node) (hn : n.IsUniform) (hc : n.conditions ≠ []) :
    n.value (fun _ ps => Combinator.byPrecedence ps) v = n.value Combinator.byCommon v := by
  cases n with
  | condition c => rfl
  | group h children =>
    have hv := values_of_isUniform h children hn.2
    have hne : values Combinator.byCommon v h children ≠ [] := fun he => hc (values_eq_nil.1 he)
    have hjoin : Combinator.byPrecedence (values Combinator.byCommon v h children) =
        Combinator.byCommon h.combinator (values Combinator.byCommon v h children) := by
      apply Combinator.byPrecedence_eq_byCommon hne
      rw [← connectors_eq]
      exact hn.1
    rw [value, value, hv, hjoin]

theorem values_of_isUniform (h : Header) (ns : List Node) (hn : AllUniform ns) :
    values (fun _ ps => Combinator.byPrecedence ps) v h ns = values Combinator.byCommon v h ns := by
  cases ns with
  | nil => rfl
  | cons n ns =>
    rw [values, values, values_of_isUniform h ns hn.2]
    split
    · rfl
    · next hc => rw [value_of_isUniform n hn.1 hc]

end

end Node

end Criteria
