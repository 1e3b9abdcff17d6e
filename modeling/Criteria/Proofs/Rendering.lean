import Criteria.Rendering
import Mathlib.Data.List.Forall2

namespace Criteria

variable {α β : Type} {r : Rendering α} {s : Rendering β} {R S : α → β → Prop}

namespace Node

mutual

theorem render?_eq_none (n : Node) : n.render? r = none ↔ n.conditions = [] := by
  cases n with
  | condition c => simp [render?, conditions]
  | group h children =>
    have hparts := parts_eq_nil h children
    cases hp : parts r h children with
    | nil => simp [render?, conditions, Rendering.combine, Rendering.link, hp, hparts.1 hp]
    | cons x xs =>
      have hne : conditionsOf children ≠ [] := fun he => by simp [hparts.2 he] at hp
      simp [render?, conditions, Rendering.combine, Rendering.link, hp, hne]

theorem parts_eq_nil (h : Header) (ns : List Node) : parts r h ns = [] ↔ conditionsOf ns = [] := by
  cases ns with
  | nil => simp [parts, conditionsOf]
  | cons n ns =>
    have hn := render?_eq_none n
    rw [parts]
    split
    · next a ha =>
      have hne : n.conditions ≠ [] := fun he => by simp [hn.2 he] at ha
      simp [conditionsOf, hne]
    · next ha => simp [conditionsOf, hn.1 ha, parts_eq_nil h ns]

end

theorem conditionsOf_eq_nil {ns : List Node} :
    conditionsOf ns = [] ↔ ∀ n ∈ ns, n.conditions = [] := by
  induction ns with
  | nil => simp [conditionsOf]
  | cons n ns ih => simp [conditionsOf, ih]

theorem parts_map_fst (h : Header) (ns : List Node) :
    (parts r h ns).map (·.1) = ns.filterMap (·.render? r) := by
  induction ns with
  | nil => rfl
  | cons n ns ih => cases hn : n.render? r <;> simp [parts, hn, ih]

theorem parts_map_snd (h : Header) (ns : List Node) : (parts r h ns).map (·.2) =
    (ns.filter (·.conditions ≠ [])).map fun n => n.edge.getD h.combinator := by
  induction ns with
  | nil => rfl
  | cons n ns ih =>
    have hn := render?_eq_none (r := r) n
    cases ha : n.render? r with
    | none => simp [parts, ha, hn.1 ha, ih]
    | some a =>
      have hne : n.conditions ≠ [] := fun he => by simp [hn.2 he] at ha
      simp [parts, ha, hne, ih]

end Node

namespace Rendering

theorem map_snd_go (c : Combinator) (ps : List (α × Combinator)) :
    (link.go c ps).map (·.2) = ps.map (·.1) := by
  induction ps generalizing c with
  | nil => rfl
  | cons p ps ih => rw [link.go, List.map_cons, List.map_cons, ih]

theorem map_fst_go (c : Combinator) (ps : List (α × Combinator)) :
    (link.go c ps).map (·.1) = (c :: ps.map (·.2)).dropLast := by
  induction ps generalizing c with
  | nil => rfl
  | cons p ps ih => rw [link.go, List.map_cons, ih, List.map_cons, List.dropLast_cons_cons]

theorem link_eq_some {ps : List (α × Combinator)} {first : α} {rest : List (Combinator × α)}
    (h : link ps = some (first, rest)) :
    ps.map (·.1) = first :: rest.map (·.2) ∧ rest.map (·.1) = (ps.map (·.2)).dropLast := by
  cases ps with
  | nil => cases h
  | cons p ps =>
    cases h
    exact ⟨by rw [List.map_cons, map_snd_go], map_fst_go p.2 ps⟩

/-- Two renderings that keep a relation `R` between parts and a relation `S` between what parts are
joined to. -/
structure Related (R S : α → β → Prop) (r : Rendering α) (s : Rendering β) : Prop where
  join {c : Combinator} {a : α} {b : β} {as : List (Combinator × α)} {bs : List (Combinator × β)}
    (h : R a b) (hs : List.Forall₂ (fun x y => x.1 = y.1 ∧ R x.2 y.2) as bs) :
    S (r.join c a as) (s.join c b bs)
  nest {a : α} {b : β} (h : S a b) : R (r.nest a) (s.nest b)
  negate {a : α} {b : β} (h : S a b) : R (r.negate a) (s.negate b)

theorem map_eq_of_forall₂ {γ : Type} {g : α → γ} {k : β → γ} {as : List (Combinator × α)}
    {bs : List (Combinator × β)}
    (h : List.Forall₂ (fun x y => x.1 = y.1 ∧ g x.2 = k y.2) as bs) :
    (as.map fun p => (p.1, g p.2)) = bs.map fun p => (p.1, k p.2) := by
  induction h with
  | nil => rfl
  | cons hp _ ih => rw [List.map_cons, List.map_cons, ih, hp.1, hp.2]

theorem rel_map {γ δ : Type} {T : γ → δ → Prop} {f : α → γ} {g : β → δ} {o : Option α}
    {p : Option β} (h : Option.Rel R o p) (hf : ∀ a b, R a b → T (f a) (g b)) :
    Option.Rel T (o.map f) (p.map g) := by
  cases h with
  | none => exact .none
  | some hab => exact .some (hf _ _ hab)

theorem link_related {ps : List (α × Combinator)} {qs : List (β × Combinator)}
    (h : List.Forall₂ (fun x y => R x.1 y.1 ∧ x.2 = y.2) ps qs) :
    Option.Rel (fun x y => R x.1 y.1 ∧
      List.Forall₂ (fun x y => x.1 = y.1 ∧ R x.2 y.2) x.2 y.2) (link ps) (link qs) := by
  have hgo {ps : List (α × Combinator)} {qs : List (β × Combinator)}
      (h : List.Forall₂ (fun x y => R x.1 y.1 ∧ x.2 = y.2) ps qs) (c : Combinator) :
      List.Forall₂ (fun x y => x.1 = y.1 ∧ R x.2 y.2) (link.go c ps) (link.go c qs) := by
    induction h generalizing c with
    | nil => exact .nil
    | @cons p q ps qs hp _ ih =>
      rw [link.go, link.go, ← hp.2]
      exact .cons ⟨rfl, hp.1⟩ (ih p.2)
  cases h with
  | nil => exact .none
  | @cons p q ps qs hp hs =>
    rw [link, link, ← hp.2]
    exact .some ⟨hp.1, hgo hs p.2⟩

theorem Related.combine (hr : Related R S r s) (h : Header) {ps : List (α × Combinator)}
    {qs : List (β × Combinator)} (hp : List.Forall₂ (fun x y => R x.1 y.1 ∧ x.2 = y.2) ps qs) :
    Option.Rel (fun a b => if h.negated then R a b else S a b) (r.combine h ps)
      (s.combine h qs) := by
  refine rel_map (link_related hp) fun x y hxy => ?_
  have hj : S (r.join h.combinator x.1 x.2) (s.join h.combinator y.1 y.2) := hr.join hxy.1 hxy.2
  dsimp only
  split
  · exact hr.negate hj
  · exact hj

end Rendering

namespace Node

mutual

theorem render?_related (hr : Rendering.Related R S r s) (n : Node)
    (hc : ∀ c ∈ n.conditions, R (r.condition c) (s.condition c)) :
    Option.Rel R (n.render? r) (n.render? s) := by
  cases n with
  | condition c => exact .some (hc c List.mem_cons_self)
  | group h children =>
    refine Rendering.rel_map (hr.combine h (parts_related hr h children hc)) fun a b hab => ?_
    by_cases hn : h.negated = true
    · simp only [hn, if_true] at hab ⊢
      exact hab
    · simp only [hn, Bool.false_eq_true, if_false] at hab ⊢
      exact hr.nest hab

theorem parts_related (hr : Rendering.Related R S r s) (h : Header) (ns : List Node)
    (hc : ∀ c ∈ conditionsOf ns, R (r.condition c) (s.condition c)) :
    List.Forall₂ (fun x y => R x.1 y.1 ∧ x.2 = y.2) (parts r h ns) (parts s h ns) := by
  cases ns with
  | nil => exact .nil
  | cons n ns =>
    have hn := render?_related hr n fun c hmem => hc c (List.mem_append_left _ hmem)
    have hns := parts_related hr h ns fun c hmem => hc c (List.mem_append_right _ hmem)
    simp only [parts]
    generalize n.render? r = o, n.render? s = p at hn
    cases hn with
    | none => exact hns
    | some hab => exact .cons ⟨hab, rfl⟩ hns

end

end Node

/-- The conditions of a tree as a rendering. -/
def Rendering.gather : Rendering (List Condition) where
  condition c := [c]
  join _ cs rest := cs ++ rest.flatMap (·.2)
  nest cs := cs
  negate cs := cs

theorem Rendering.gather_combine (h : Header) (ps : List (List Condition × Combinator)) :
    (gather.combine h ps).getD [] = ps.flatMap (·.1) := by
  have hgo (c : Combinator) (ps : List (List Condition × Combinator)) :
      (link.go c ps).flatMap (·.2) = ps.flatMap (·.1) := by
    induction ps generalizing c with
    | nil => rfl
    | cons p ps ih => rw [link.go, List.flatMap_cons, List.flatMap_cons, ih]
  cases ps with
  | nil => rfl
  | cons p ps => simp only [combine, link, gather, Option.map_some, Option.getD_some, hgo,
      ite_self, List.flatMap_cons]

namespace Node

mutual

theorem render?_gather (n : Node) : (n.render? .gather).getD [] = n.conditions := by
  cases n with
  | condition c => rfl
  | group h children =>
    have hparts := parts_gather h children
    rw [← Rendering.gather_combine] at hparts
    rw [render?, conditions, ← hparts]
    cases Rendering.gather.combine h (parts .gather h children) with
    | none => rfl
    | some cs => simp only [Option.map_some, Option.getD_some, Rendering.gather, ite_self]

theorem parts_gather (h : Header) (ns : List Node) :
    (parts .gather h ns).flatMap (·.1) = conditionsOf ns := by
  cases ns with
  | nil => rfl
  | cons n ns =>
    rw [conditionsOf, ← render?_gather n, ← parts_gather h ns, parts]
    cases n.render? .gather <;> rfl

end

end Node

/-- Two renderings of a tree are related if they relate its conditions. -/
theorem Group.render?_related (hr : Rendering.Related R S r s) (t : Tree)
    (hc : ∀ c ∈ t.conditions, R (r.condition c) (s.condition c)) :
    Option.Rel (fun a b => if t.header.negated then R a b else S a b) (t.render? r)
      (t.render? s) :=
  hr.combine t.header (Node.parts_related hr t.header t.children hc)

theorem Group.map_render? {g : α → β} (hr : Rendering.Related (g · = ·) (g · = ·) r s) {t : Tree}
    (hc : ∀ c ∈ t.conditions, g (r.condition c) = s.condition c) :
    (t.render? r).map g = t.render? s := by
  have hrel := Group.render?_related hr t hc
  simp only [ite_self] at hrel
  generalize t.render? r = o, t.render? s = p at hrel
  cases hrel with
  | none => rfl
  | some hab => exact congrArg some hab

theorem Group.render?_gather (t : Tree) : (t.render? .gather).getD [] = t.conditions :=
  (Rendering.gather_combine _ _).trans (Node.parts_gather t.header t.children)

theorem Group.render?_eq_none (t : Tree) : t.render? r = none ↔ t.conditions = [] := by
  rw [Group.conditions, ← Node.parts_eq_nil (r := r) t.header, Group.render?, Rendering.combine]
  cases Node.parts r t.header t.children <;> simp [Rendering.link]

/-- What the operations of a rendering keep for parts and the conditions in them holds for a tree
and its conditions. -/
theorem Group.render?_rec {P : α → List Condition → Prop} (hr : Rendering.Related P P r .gather)
    {t : Tree} (hc : ∀ c ∈ t.conditions, P (r.condition c) [c]) {a : α}
    (ha : t.render? r = some a) : P a t.conditions := by
  have hrel := Group.render?_related hr t hc
  have hcs := t.render?_gather
  rw [ha] at hrel
  generalize t.render? .gather = o at hrel hcs
  cases hrel with
  | some h =>
    rw [ite_self, Option.getD_some] at *
    rw [← hcs]
    exact h

end Criteria
