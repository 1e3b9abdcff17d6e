import Criteria.Edit.Mutation

namespace Criteria

namespace IdSource

/-- The source after it has issued some number of ids. -/
def issued (s : IdSource) : Nat → IdSource
  | 0 => s
  | k + 1 => s.next.2.issued k

theorem issued_add (s : IdSource) (j k : Nat) : s.issued (j + k) = (s.issued j).issued k := by
  induction j generalizing s with
  | zero => rw [Nat.zero_add, issued]
  | succ j ih => rw [Nat.succ_add, issued, ih, issued]

theorem issued_of_lt {s : IdSource} {k : Nat} (h : s.count + k < period) :
    s.issued k = { s with count := s.count + k } := by
  induction k generalizing s with
  | zero => rfl
  | succ k ih =>
    have hcount : s.next.2.count = s.count + 1 := Nat.mod_eq_of_lt (by omega)
    rw [issued, ih (by omega), hcount]
    simp only [next, IdSource.mk.injEq, true_and]
    omega

/-- Whether one source has become another one by issuing ids. -/
def Reaches (s s' : IdSource) : Prop := ∃ k, s' = s.issued k

variable {s s' s'' : IdSource} {id : String} {taken : List String}

theorem Reaches.refl (s : IdSource) : s.Reaches s := ⟨0, rfl⟩

theorem Reaches.trans (h : s.Reaches s') (h' : s'.Reaches s'') : s.Reaches s'' := by
  obtain ⟨j, rfl⟩ := h
  obtain ⟨k, rfl⟩ := h'
  exact ⟨j + k, (s.issued_add j k).symm⟩

theorem reaches_next (s : IdSource) : s.Reaches s.next.2 := ⟨1, rfl⟩

theorem reaches_freshWithin {fuel : Nat} (h : freshWithin fuel s taken = some (id, s')) :
    s.Reaches s' := by
  induction fuel generalizing s with
  | zero => cases h
  | succ fuel ih =>
    simp only [freshWithin] at h
    split at h
    · exact s.reaches_next.trans (ih h)
    · obtain ⟨-, rfl⟩ := Prod.mk.inj (Option.some.inj h)
      exact s.reaches_next

theorem reaches_fresh (s : IdSource) (taken : List String) : s.Reaches (s.fresh taken).2 := by
  rw [fresh]
  cases h : s.freshWithin (taken.length + 1) taken with
  | none => exact .refl s
  | some x => exact reaches_freshWithin h

end IdSource

namespace Claims

/-- Whether a way to give ids to nodes has them issued by the source. -/
def Draws (assign : Claims → String → String × Claims) : Prop :=
  ∀ (c : Claims) (id : String), c.ids.Reaches (assign c id).2.ids

theorem reaches_fresh (c : Claims) : c.ids.Reaches c.fresh.2.ids := c.ids.reaches_fresh c.taken

theorem fresh_draws : Draws fun c _ => c.fresh := fun c _ => c.reaches_fresh

theorem claim_draws : Draws claim := by
  intro c id
  rw [claim]
  split
  · exact .refl _
  · exact c.reaches_fresh

end Claims

namespace Node

variable {assign : Claims → String → String × Claims}

mutual

theorem reaches_relabel (h : Claims.Draws assign) (c : Claims) (n : Node) :
    c.ids.Reaches (n.relabel assign c).2.ids := by
  cases n with
  | condition d => exact h c d.id
  | group k children => exact (h c k.id).trans (reaches_relabelAll h _ children)

theorem reaches_relabelAll (h : Claims.Draws assign) (c : Claims) (ns : List Node) :
    c.ids.Reaches (relabelAll assign c ns).2.ids := by
  cases ns with
  | nil => exact .refl _
  | cons n ns => exact (reaches_relabel h c n).trans (reaches_relabelAll h _ ns)

end

end Node

namespace Group

variable {t : Tree} {id : String} {ctx : EditContext} {s : IdSource}

theorem reaches_cloneNode {after : Bool} : s.Reaches (t.cloneNode id after s).2 := by
  rw [cloneNode]
  cases t.place id with
  | error e => exact .refl s
  | ok p => exact Node.reaches_relabel Claims.fresh_draws (.ofTree s t) p.node

theorem reaches_addCondition {d : Option Condition} : s.Reaches (t.addCondition id d ctx s).2 := by
  cases d with
  | some d => exact Node.reaches_relabel Claims.claim_draws (.ofTree s t) (.condition d)
  | none =>
    simp only [addCondition, newCondition]
    cases ctx.catalog.first? with
    | none => exact .refl s
    | some f => exact (Claims.ofTree s t).reaches_fresh

theorem reaches_addGroup {child : Option Group} : s.Reaches (t.addGroup id child ctx s).2 := by
  rw [addGroup]
  cases t.group id with
  | error e => exact .refl s
  | ok g =>
    -- the ids are issued before the depth is looked at
    cases child with
    | some child =>
      dsimp only
      split <;> exact Node.reaches_relabel Claims.claim_draws (.ofTree s t) child.toNode
    | none =>
      dsimp only
      split <;> exact (Claims.ofTree s t).reaches_fresh

end Group

theorem Mutation.reaches_apply (ctx : EditContext) (s : IdSource) (t : Tree) (m : Mutation) :
    s.Reaches (m.apply ctx s t).2 := by
  cases m with
  | addCondition => exact Group.reaches_addCondition
  | addGroup => exact Group.reaches_addGroup
  | cloneNode => exact Group.reaches_cloneNode
  | updateCondition | updateGroup | deleteNode | moveNode | setCombinator | setEdge
  | toggleNegation => exact .refl s

end Criteria
