import Criteria.Edit.Claim
import Mathlib.Algebra.Order.BigOperators.Group.List
import Mathlib.Algebra.Order.Group.Nat
import Mathlib.Data.List.Nodup

namespace Criteria

namespace IdSource

variable {s s' : IdSource} {id : String} {taken : List String} {fuel : Nat}

theorem freshWithin_not_mem (h : freshWithin fuel s taken = some (id, s')) : id ∉ taken := by
  induction fuel generalizing s with
  | zero => cases h
  | succ fuel ih =>
    simp only [freshWithin] at h
    split at h
    · exact ih h
    · next hnot =>
      obtain ⟨rfl, -⟩ := Prod.mk.inj (Option.some.inj h)
      simpa using hnot

theorem length_spare (s : IdSource) (taken : List String) :
    (s.spare taken).length
      = s.seed.length + 1 + (taken.map String.length).foldr (· + ·) 0 := by
  simp only [spare, String.length_append, String.length_ofList, List.length_replicate]
  rfl

theorem spare_not_mem (s : IdSource) (taken : List String) : s.spare taken ∉ taken := by
  intro hmem
  have hle : (s.spare taken).length ≤ (taken.map String.length).foldr (· + ·) 0 :=
    List.le_sum_of_mem (List.mem_map_of_mem hmem)
  rw [length_spare] at hle
  omega

theorem fresh_not_mem (s : IdSource) (taken : List String) : (s.fresh taken).1 ∉ taken := by
  rw [fresh]
  cases h : s.freshWithin (taken.length + 1) taken with
  | none => exact s.spare_not_mem taken
  | some x => exact freshWithin_not_mem h

end IdSource

namespace Claims

/-- A way to give ids to nodes by which each id is new, and taken from then on. -/
structure Assigns (assign : Claims → String → String × Claims) : Prop where
  new (c : Claims) (id : String) : (assign c id).1 ∉ c.taken
  taken (c : Claims) (id : String) : (assign c id).2.taken = (assign c id).1 :: c.taken

theorem fresh_not_mem (c : Claims) : c.fresh.1 ∉ c.taken := c.ids.fresh_not_mem c.taken

theorem fresh_assigns : Assigns fun c _ => c.fresh where
  new c _ := c.fresh_not_mem
  taken _ _ := rfl

theorem claim_assigns : Assigns claim where
  new c id := by
    rw [claim]
    split
    · next h => simpa using h.2
    · exact c.fresh_not_mem
  taken c id := by
    rw [claim]
    split <;> rfl

end Claims

namespace Node

variable {assign : Claims → String → String × Claims}

mutual

theorem taken_relabel (h : Claims.Assigns assign) (c : Claims) (n : Node) :
    (n.relabel assign c).2.taken = (n.relabel assign c).1.ids.reverse ++ c.taken := by
  cases n with
  | condition d => exact h.taken c d.id
  | group k children =>
    simp only [relabel, ids, taken_relabelAll h, h.taken, List.reverse_cons, List.append_assoc,
      List.singleton_append]

theorem taken_relabelAll (h : Claims.Assigns assign) (c : Claims) (ns : List Node) :
    (relabelAll assign c ns).2.taken = (idsOf (relabelAll assign c ns).1).reverse ++ c.taken := by
  cases ns with
  | nil => rfl
  | cons n ns =>
    simp only [relabelAll, idsOf, taken_relabelAll h, taken_relabel h, List.reverse_append,
      List.append_assoc]

end

mutual

theorem nodup_taken_relabel (h : Claims.Assigns assign) (c : Claims) (n : Node)
    (hc : c.taken.Nodup) : (n.relabel assign c).2.taken.Nodup := by
  have hstep (id : String) : (assign c id).2.taken.Nodup := by
    rw [h.taken]
    exact hc.cons (h.new c id)
  cases n with
  | condition d => exact hstep d.id
  | group k children => exact nodup_taken_relabelAll h _ children (hstep k.id)

theorem nodup_taken_relabelAll (h : Claims.Assigns assign) (c : Claims) (ns : List Node)
    (hc : c.taken.Nodup) : (relabelAll assign c ns).2.taken.Nodup := by
  cases ns with
  | nil => exact hc
  | cons n ns => exact nodup_taken_relabelAll h _ ns (nodup_taken_relabel h c n hc)

end

theorem nodup_relabel (h : Claims.Assigns assign) {c : Claims} (hc : c.taken.Nodup) (n : Node) :
    ((n.relabel assign c).1.ids ++ c.taken).Nodup := by
  have hall := nodup_taken_relabel h c n hc
  rw [taken_relabel h] at hall
  exact ((List.reverse_perm _).append_right _).nodup hall

end Node

end Criteria
