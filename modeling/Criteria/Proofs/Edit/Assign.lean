import Criteria.Proofs.Edit.Claim
import Criteria.Proofs.Ids

namespace Criteria

namespace Claims

variable {assign : Claims → String → String × Claims} {c d : Claims} {ids : List String} {i : Nat}
  {id : String}

/-- The ids that several nodes get one after another. -/
def assignAll (assign : Claims → String → String × Claims) (c : Claims) :
    List String → List String × Claims
  | [] => ([], c)
  | id :: ids =>
    let (new, c) := assign c id
    let (news, c) := assignAll assign c ids
    (new :: news, c)

theorem assignAll_append (c : Claims) (xs ys : List String) :
    assignAll assign c (xs ++ ys) =
      ((assignAll assign c xs).1 ++ (assignAll assign (assignAll assign c xs).2 ys).1,
        (assignAll assign (assignAll assign c xs).2 ys).2) := by
  induction xs generalizing c with
  | nil => rfl
  | cons x xs ih => simp only [List.cons_append, assignAll, ih]

theorem length_assignAll (c : Claims) (ids : List String) :
    (assignAll assign c ids).1.length = ids.length := by
  induction ids generalizing c with
  | nil => rfl
  | cons id ids ih => simp only [assignAll, List.length_cons, ih]

theorem getElem?_assignAll (ha : Assigns assign) (hdraw : Draws assign) (h : ids[i]? = some id) :
    ∃ d : Claims, (assignAll assign c ids).1[i]? = some (assign d id).1 ∧
      d.taken = ((assignAll assign c ids).1.take i).reverse ++ c.taken ∧ c.ids.Reaches d.ids := by
  induction ids generalizing c i with
  | nil => cases h
  | cons x xs ih =>
    cases i with
    | zero =>
      obtain rfl : x = id := Option.some.inj h
      exact ⟨c, rfl, rfl, .refl _⟩
    | succ i =>
      obtain ⟨d, hid, htaken, hreaches⟩ := ih (c := (assign c x).2) h
      refine ⟨d, hid, ?_, (hdraw c x).trans hreaches⟩
      rw [htaken, ha.taken, assignAll, List.take_succ_cons, List.reverse_cons, List.append_assoc]
      rfl

theorem lt_length_of_getElem? (h : (assignAll assign c ids).1[i]? = some id) : i < ids.length := by
  rw [← length_assignAll c ids]
  exact (List.getElem?_eq_some_iff.1 h).1

theorem exists_draw_eq_fresh (hreaches : c.ids.Reaches d.ids)
    (htaken : d.taken = ((assignAll assign c ids).1.take i).reverse ++ c.taken)
    (hi : i < ids.length) (hroom : c.taken.length + ids.length ≤ IdSource.period) :
    ∃ k, c.ids.draw k = d.fresh.1 := by
  have hlength : d.taken.length = i + c.taken.length := by
    rw [htaken, List.length_append, List.length_reverse, List.length_take, length_assignAll,
      Nat.min_eq_left (Nat.le_of_lt hi)]
  obtain ⟨j, hj⟩ := hreaches
  have hfree : d.taken.toFinset.card < IdSource.period :=
    Nat.lt_of_le_of_lt (List.toFinset_card_le d.taken) (by omega)
  obtain ⟨k, -, -, hk⟩ := d.ids.exists_isFirstFree_fresh hfree
  refine ⟨j + k, ?_⟩
  have hfresh : d.fresh.1 = d.ids.draw k := congrArg Prod.fst hk
  rw [hfresh, hj, IdSource.draw_issued]

end Claims

namespace Node

variable {assign : Claims → String → String × Claims}

mutual

/-- A node with all its ids left blank. -/
def unnamed : Node → Node
  | .condition c => .condition { c with id := "" }
  | .group h children => .group { h with id := "" } (unnamedAll children)

def unnamedAll : List Node → List Node
  | [] => []
  | n :: ns => n.unnamed :: unnamedAll ns

end

mutual

theorem unnamed_relabel (c : Claims) (n : Node) : (n.relabel assign c).1.unnamed = n.unnamed := by
  cases n with
  | condition d => rfl
  | group h children => simp only [relabel, unnamed, unnamedAll_relabelAll _ children]

theorem unnamedAll_relabelAll (c : Claims) (ns : List Node) :
    unnamedAll (relabelAll assign c ns).1 = unnamedAll ns := by
  cases ns with
  | nil => rfl
  | cons n ns =>
    simp only [relabelAll, unnamedAll, unnamed_relabel _ n, unnamedAll_relabelAll _ ns]

end

mutual

/-- The ids of a node tell which ids the nodes in it get, and what is taken then. -/
theorem relabel_assigns (c : Claims) (n : Node) :
    ((n.relabel assign c).1.ids, (n.relabel assign c).2) = Claims.assignAll assign c n.ids := by
  cases n with
  | condition d => rfl
  | group h children =>
    simp only [relabel, ids, Claims.assignAll, ← relabelAll_assigns _ children]

theorem relabelAll_assigns (c : Claims) (ns : List Node) :
    (idsOf (relabelAll assign c ns).1, (relabelAll assign c ns).2)
      = Claims.assignAll assign c (idsOf ns) := by
  cases ns with
  | nil => rfl
  | cons n ns =>
    rw [idsOf, Claims.assignAll_append, ← relabel_assigns c n, ← relabelAll_assigns _ ns]
    rfl

end

end Node

end Criteria
