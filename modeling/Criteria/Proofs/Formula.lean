import Criteria.Proofs.Rendering
import Criteria.Proofs.Truth

namespace Criteria

inductive Formula (α : Type) where
  | atom (a : α)
  | and (f g : Formula α)
  | or (f g : Formula α)
  | not (f : Formula α)
  deriving DecidableEq

namespace Formula

variable {α β γ : Type}

def eval (v : α → Bool) : Formula α → Bool
  | .atom a => v a
  | .and f g => f.eval v && g.eval v
  | .or f g => f.eval v || g.eval v
  | .not f => !f.eval v

/-- A formula with a formula in place of each atom. -/
def bind (m : α → Formula β) : Formula α → Formula β
  | .atom a => m a
  | .and f g => .and (f.bind m) (g.bind m)
  | .or f g => .or (f.bind m) (g.bind m)
  | .not f => .not (f.bind m)

theorem eval_bind (m : α → Formula β) (v : β → Bool) (f : Formula α) :
    (f.bind m).eval v = f.eval fun a => (m a).eval v := by
  induction f with
  | atom => rfl
  | and f g ihf ihg => rw [bind, eval, eval, ihf, ihg]
  | or f g ihf ihg => rw [bind, eval, eval, ihf, ihg]
  | not f ih => rw [bind, eval, eval, ih]

theorem bind_bind (m : α → Formula β) (k : β → Formula γ) (f : Formula α) :
    (f.bind m).bind k = f.bind fun a => (m a).bind k := by
  induction f with
  | atom => rfl
  | and f g ihf ihg => simp only [bind, ihf, ihg]
  | or f g ihf ihg => simp only [bind, ihf, ihg]
  | not f ih => simp only [bind, ih]

/-- The atoms of a formula from the left. -/
def atoms : Formula α → List α
  | .atom a => [a]
  | .and f g | .or f g => f.atoms ++ g.atoms
  | .not f => f.atoms

/-- What stands in place of the atoms of a formula can be told from the result. -/
theorem bind_eq_bind_iff {m k : α → Formula β} (f : Formula α) :
    f.bind m = f.bind k ↔ ∀ a ∈ f.atoms, m a = k a := by
  induction f with
  | atom a => simp only [bind, atoms, List.mem_singleton, forall_eq]
  | and f g ihf ihg | or f g ihf ihg =>
    simp only [bind, atoms, and.injEq, or.injEq, ihf, ihg, List.mem_append, or_imp, forall_and]
  | not f ih => simp only [bind, atoms, not.injEq, ih]

/-- A row of formulas, each but the first with the combinator before it. AND binds tighter than
OR. -/
def chain : Formula α → List (Combinator × Formula α) → Formula α
  | f, [] => f
  | f, (.and, g) :: rest => chain (.and f g) rest
  | f, (.or, g) :: rest => .or f (chain g rest)

theorem eval_chain_go (v : α → Bool) (f : Formula α) (c : Combinator)
    (ps : List (Formula α × Combinator)) :
    (chain f (Rendering.link.go c ps)).eval v =
      Combinator.byPrecedence.go (f.eval v) c (ps.map fun p => (p.1.eval v, p.2)) := by
  induction ps generalizing f c with
  | nil => cases c <;> rfl
  | cons p ps ih =>
    cases c <;>
      simp only [Rendering.link.go, chain, List.map_cons, Combinator.byPrecedence.go, ih, eval]

theorem bind_chain (m : α → Formula β) (f : Formula α) (rest : List (Combinator × Formula α)) :
    (chain f rest).bind m = chain (f.bind m) (rest.map fun p => (p.1, p.2.bind m)) := by
  fun_induction chain f rest with
  | case1 => rfl
  | case2 f g rest ih => simp only [ih, List.map_cons, chain, bind]
  | case3 f g rest ih => simp only [ih, List.map_cons, chain, bind]

theorem atoms_chain (f : Formula α) (rest : List (Combinator × Formula α)) :
    (chain f rest).atoms = f.atoms ++ rest.flatMap (·.2.atoms) := by
  fun_induction chain f rest with
  | case1 f => rw [List.flatMap_nil, List.append_nil]
  | case2 f g rest ih => rw [ih, atoms, List.flatMap_cons, List.append_assoc]
  | case3 f g rest ih => rw [atoms, ih, List.flatMap_cons]

/-- Formulas joined by one combinator. -/
def joined (c : Combinator) : Formula α → List (Formula α) → Formula α
  | f, [] => f
  | f, g :: gs =>
    match c with
    | .and => .and f (joined c g gs)
    | .or => .or f (joined c g gs)

theorem bind_joined (m : α → Formula β) (c : Combinator) (f : Formula α)
    (gs : List (Formula α)) : (joined c f gs).bind m = joined c (f.bind m) (gs.map (·.bind m)) := by
  induction gs generalizing f with
  | nil => rfl
  | cons g gs ih => cases c <;> simp only [joined, bind, ih, List.map_cons]

/-- A row of formulas joined by their common combinator. -/
def common (default : Combinator) (f : Formula α) (rest : List (Combinator × Formula α)) :
    Formula α :=
  joined (Combinator.common default (rest.map (·.1))) f (rest.map (·.2))

theorem bind_common (m : α → Formula β) (c : Combinator) (f : Formula α)
    (rest : List (Combinator × Formula α)) :
    (common c f rest).bind m = common c (f.bind m) (rest.map fun p => (p.1, p.2.bind m)) := by
  simp only [common, bind_joined, List.map_map, Function.comp_def]

end Formula

/-- Formulas over conditions as a rendering. -/
def Rendering.formula
    (join : Combinator → Formula Condition → List (Combinator × Formula Condition) →
      Formula Condition) : Rendering (Formula Condition) where
  condition := .atom
  join := join
  nest := id
  negate := .not

variable {join : Combinator → Formula Condition → List (Combinator × Formula Condition) →
    Formula Condition} {joinValues : Combinator → List (Bool × Combinator) → Bool}
  {v : Condition → Bool}

namespace Node

mutual

theorem render?_formula
    (hj : ∀ c f k ps, (join c f (Rendering.link.go k ps)).eval v =
      joinValues c ((f.eval v, k) :: ps.map fun p => (p.1.eval v, p.2))) (n : Node) :
    (n.render? (.formula join)).map (·.eval v) =
      if n.conditions = [] then none else some (n.value joinValues v) := by
  cases n with
  | condition c => simp [render?, Rendering.formula, Formula.eval, conditions, value]
  | group h children =>
    have hvalues := parts_formula hj h children
    have hnil := parts_eq_nil (r := .formula join) h children
    rw [render?, conditions, value, Rendering.combine, ← hvalues]
    cases hp : parts (.formula join) h children with
    | nil => simp [Rendering.link, hnil.1 hp]
    | cons p ps =>
      have hne : conditionsOf children ≠ [] := fun he => by simp [hnil.2 he] at hp
      simp only [Rendering.link, Rendering.formula, Option.map_some, hne, if_false, List.map_cons]
      cases h.negated <;> simp [Formula.eval, hj]

theorem parts_formula
    (hj : ∀ c f k ps, (join c f (Rendering.link.go k ps)).eval v =
      joinValues c ((f.eval v, k) :: ps.map fun p => (p.1.eval v, p.2)))
    (h : Header) (ns : List Node) :
    (parts (.formula join) h ns).map (fun p => (p.1.eval v, p.2)) = values joinValues v h ns := by
  cases ns with
  | nil => rfl
  | cons n ns =>
    have hn := render?_formula hj n
    have hns := parts_formula hj h ns
    rw [parts, values]
    cases hr : n.render? (.formula join) with
    | none =>
      rw [if_pos ((render?_eq_none n).1 hr)]
      exact hns
    | some f =>
      -- only a child with a condition renders to something
      have hne : n.conditions ≠ [] := fun he => by simp [(render?_eq_none n).2 he] at hr
      rw [hr, if_neg hne, Option.map_some, Option.some.injEq] at hn
      rw [if_neg hne, List.map_cons, hns, hn]

end

end Node

namespace Group

variable {t : Tree}

theorem exists_formula (ht : t.conditions ≠ [])
    (hj : ∀ v c f k ps, (join c f (Rendering.link.go k ps)).eval v =
      joinValues c ((f.eval v, k) :: ps.map fun p => (p.1.eval v, p.2))) :
    ∃ f, t.render? (.formula join) = some f ∧ ∀ v, f.eval v = t.toNode.value joinValues v := by
  obtain ⟨f, hf⟩ := Option.ne_none_iff_exists'.1 (mt (render?_eq_none t).1 ht)
  refine ⟨f, hf, fun v => ?_⟩
  have hroot : t.toNode.render? (.formula join) = some f := by
    rw [← hf]
    simp [render?, toNode, Node.render?, Rendering.formula]
  have hvalue := Node.render?_formula (hj v) t.toNode
  rw [hroot] at hvalue
  exact Option.some.inj (hvalue.trans (if_neg ht))

theorem exists_formula_chain (ht : t.conditions ≠ []) :
    ∃ f, t.render? (.formula fun _ => .chain) = some f ∧ ∀ v, f.eval v = t.holds v :=
  exists_formula ht fun v _ => Formula.eval_chain_go v

theorem atoms_of_render? {f : Formula Condition}
    (h : t.render? (.formula fun _ => .chain) = some f) : f.atoms = t.conditions := by
  refine Group.render?_rec (P := fun f cs => f.atoms = cs) ⟨?_, fun h => h, fun h => h⟩
    (fun _ _ => rfl) h
  intro _ f cs rest css hf hs
  rw [Rendering.formula, Formula.atoms_chain, hf, Rendering.gather]
  congr 1
  induction hs with
  | nil => rfl
  | cons hp _ ih => rw [List.flatMap_cons, List.flatMap_cons, ih, hp.2]

end Group

end Criteria
