import Criteria.Proofs.Edit.Assign
import Criteria.Proofs.Edit.Distinct

namespace Criteria

open IdSource (period)

theorem mem_take_iff {α : Type} {xs : List α} {i : Nat} {x : α} :
    x ∈ xs.take i ↔ ∃ j < i, xs[j]? = some x := by
  simp only [List.mem_iff_getElem?, List.getElem?_take]
  constructor
  · rintro ⟨j, hj⟩
    split at hj
    · next hlt => exact ⟨j, hlt, hj⟩
    · cases hj
  · rintro ⟨j, hlt, hj⟩
    exact ⟨j, (if_pos hlt).trans hj⟩

theorem not_mem_take_of_count {xs : List String} {i : Nat} {x : String} (h : xs[i]? = some x)
    (hcount : xs.count x = 1) : x ∉ xs.take i := by
  intro hmem
  have hdrop : x ∈ xs.drop i := by
    rw [List.mem_iff_getElem?]
    exact ⟨0, by rw [List.getElem?_drop, Nat.add_zero, h]⟩
  have hsplit : xs.count x = (xs.take i).count x + (xs.drop i).count x := by
    rw [← List.count_append, List.take_append_drop]
  have hbefore : 0 < (xs.take i).count x := List.count_pos_iff.2 hmem
  have hafter : 0 < (xs.drop i).count x := List.count_pos_iff.2 hdrop
  omega

namespace Claims

variable {c : Claims} {old : List String} {i : Nat} {id : String}

/-- Whether a node before a position got an id in the place of its own. -/
def IssuedBefore (old new : List String) (i : Nat) (id : String) : Prop :=
  ∃ j < i, new[j]? = some id ∧ old[j]? ≠ some id

theorem claim_of_usable (h : id ≠ "" ∧ id ∉ c.taken) : (c.claim id).1 = id := by
  rw [claim, if_pos (by simpa using h)]

theorem claim_of_not_usable (h : ¬ (id ≠ "" ∧ id ∉ c.taken)) : (c.claim id).1 = c.fresh.1 := by
  rw [claim, if_neg (by simpa using h)]

theorem claim_eq_self_iff : (c.claim id).1 = id ↔ id ≠ "" ∧ id ∉ c.taken := by
  refine ⟨fun hid => ?_, claim_of_usable⟩
  by_contra hunusable
  rw [claim_of_not_usable hunusable] at hid
  apply hunusable
  constructor
  · exact hid ▸ c.ids.fresh_ne_empty c.taken
  · exact hid ▸ c.fresh_not_mem

/-- The ids that several nodes get which come with ids of their own. -/
def claimAll (c : Claims) (ids : List String) : List String := (assignAll claim c ids).1

/-- An id that can be used is kept when it is its turn, if it has not been given out by then. -/
theorem claimAll_eq_self_iff (h : old[i]? = some id) :
    (c.claimAll old)[i]? = some id ↔ id ≠ "" ∧ id ∉ c.taken ∧ id ∉ (c.claimAll old).take i := by
  obtain ⟨d, hd, htaken, -⟩ := getElem?_assignAll (c := c) claim_assigns claim_draws h
  rw [claimAll, hd, Option.some.injEq, claim_eq_self_iff, htaken, List.mem_append,
    List.mem_reverse, not_or, and_comm (a := id ∉ c.taken)]

theorem mem_take_claimAll_iff (hne : id ≠ "") (hfree : id ∉ c.taken) :
    id ∈ (c.claimAll old).take i ↔ id ∈ old.take i ∨ IssuedBefore old (c.claimAll old) i id := by
  constructor
  · intro h
    obtain ⟨j, hlt, hj⟩ := mem_take_iff.1 h
    by_cases hold : old[j]? = some id
    · exact .inl (mem_take_iff.2 ⟨j, hlt, hold⟩)
    · exact .inr ⟨j, hlt, hj, hold⟩
  · rintro (h | ⟨j, hlt, hj, -⟩)
    · obtain ⟨j, hlt, hold⟩ := mem_take_iff.1 h
      by_cases hearlier : id ∈ (c.claimAll old).take j
      · obtain ⟨k, hk, hid⟩ := mem_take_iff.1 hearlier
        exact mem_take_iff.2 ⟨k, hk.trans hlt, hid⟩
      · exact mem_take_iff.2 ⟨j, hlt, (claimAll_eq_self_iff hold).2 ⟨hne, hfree, hearlier⟩⟩
    · exact mem_take_iff.2 ⟨j, hlt, hj⟩

theorem kept_iff (h : old[i]? = some id) :
    (c.claimAll old)[i]? = some id ↔ id ≠ "" ∧ id ∉ c.taken ∧ id ∉ old.take i ∧
      ¬ IssuedBefore old (c.claimAll old) i id := by
  rw [claimAll_eq_self_iff h]
  refine and_congr_right fun hne => and_congr_right fun hfree => ?_
  rw [mem_take_claimAll_iff hne hfree, not_or]

theorem IssuedBefore.exists_draw (h : IssuedBefore old (c.claimAll old) i id)
    (hroom : c.taken.length + old.length ≤ period) : ∃ k, c.ids.draw k = id := by
  obtain ⟨j, -, hj, hne⟩ := h
  have hlt : j < old.length := lt_length_of_getElem? hj
  have hold : old[j]? = some old[j] := List.getElem?_eq_getElem hlt
  obtain ⟨d, hd, htaken, hreaches⟩ := getElem?_assignAll (c := c) claim_assigns claim_draws hold
  obtain rfl : (d.claim old[j]).1 = id := Option.some.inj (hd.symm.trans hj)
  have hunusable : ¬ (old[j] ≠ "" ∧ old[j] ∉ d.taken) := by
    intro husable
    exact hne (hold.trans (congrArg some (claim_of_usable husable).symm))
  rw [claim_of_not_usable hunusable]
  exact exists_draw_eq_fresh hreaches htaken hlt hroom

end Claims

namespace Mutation

variable {m : Mutation} {ctx : EditContext} {s : IdSource} {t t' : Tree} {group : String} {n : Node}

/-- The group that a node is added to, and the node as it is supplied. -/
def supplied? : Mutation → Option (String × Node)
  | addCondition group (some c) => some (group, .condition c)
  | addGroup group (some g) => some (group, g.toNode)
  | _ => none

theorem editGroup_of_supplied (hm : m.supplied? = some (group, n))
    (h : (m.apply ctx s t).1 = .ok t') :
    t.editGroup group (Group.append (n.claimIds (.ofTree s t)).1) = .ok t' := by
  cases m with
  | addCondition id condition =>
    cases condition with
    | none => cases hm
    | some c =>
      obtain ⟨rfl, rfl⟩ := Prod.mk.inj (Option.some.inj hm)
      exact h
  | addGroup id child =>
    cases child with
    | none => cases hm
    | some g =>
      obtain ⟨rfl, rfl⟩ := Prod.mk.inj (Option.some.inj hm)
      simp only [apply, Group.addGroup] at h
      split at h
      · cases h
      · split at h
        · cases h
        · exact h
  | updateCondition | updateGroup | deleteNode | cloneNode | moveNode | setCombinator | setEdge
  | toggleNegation => cases hm

end Mutation

open Claims (IssuedBefore)

/-- A node that is added with ids of its own becomes the last child of its group and stays the same
but for ids. In any tree, an id in it is kept just if it is not blank, no id of the tree, not the id
of a node before it in what is added, and not one that a node before it got in the place of its own.
So an id that occurs once and can be used is lost just if it has been issued for a node before it,
and then it is one that the source comes up with. -/
theorem supplied_ids_kept_iff (ctx : EditContext) (s : IdSource) (t t' : Tree) (m : Mutation)
    (group : String) (n : Node) (hm : m.supplied? = some (group, n))
    (h : (m.apply ctx s t).1 = .ok t') :
    ∃ (n' : Node) (g : Group) (c : List Frame), g.id = group ∧ t.toNode = g.toNode.within c ∧
      t'.toNode = (g.append n').toNode.within c ∧ n'.unnamed = n.unnamed ∧
      ∀ (i : Nat) (id : String), n.ids[i]? = some id →
        (n'.ids[i]? = some id ↔ id ≠ "" ∧ id ∉ t.ids ∧ id ∉ n.ids.take i ∧
          ¬ IssuedBefore n.ids n'.ids i id) ∧
        (id ≠ "" → id ∉ t.ids → n.ids.count id = 1 →
          (n'.ids[i]? = some id ↔ ¬ IssuedBefore n.ids n'.ids i id)) ∧
        (t.ids.length + n.ids.length ≤ period → IssuedBefore n.ids n'.ids i id →
          ∃ k, s.draw k = id) := by
  obtain ⟨g, c, hg, ht, ht'⟩ := Group.editGroup_ok (m.editGroup_of_supplied hm h)
  have hids : (n.claimIds (.ofTree s t)).1.ids = (Claims.ofTree s t).claimAll n.ids :=
    congrArg Prod.fst (Node.relabel_assigns (Claims.ofTree s t) n)
  refine ⟨_, g, c, Group.id_of_group_ok hg, ht, ht', Node.unnamed_relabel _ n, ?_⟩
  intro i id hi
  rw [hids]
  have hkept := Claims.kept_iff (c := .ofTree s t) hi
  refine ⟨hkept, ?_, ?_⟩
  · intro hne hfree hcount
    have honce : id ∉ n.ids.take i := not_mem_take_of_count hi hcount
    rw [hkept]
    exact ⟨fun hall => hall.2.2.2, fun hnot => ⟨hne, hfree, honce, hnot⟩⟩
  · intro hroom hissued
    exact hissued.exists_draw hroom

/-- A group without an id and three conditions in it. The group gets the first id that the source
comes up with, so the second condition, which has that one, gets another. -/
theorem supplied_ids_kept_iff_third :
    let a (id : String) : Node := .condition ⟨id, "x", .isEmpty, .null, none⟩
    let k (id : String) (children : List Node) : Group := ⟨⟨id, .and, false, none⟩, children⟩
    let t : Tree := k "r" []
    let n : Node := (k "" [a "r", a "s-1", a "b"]).toNode
    let n' : Node := (k "s-1" [a "s-2", a "s-3", a "b"]).toNode
    let ctx : EditContext := ⟨⟨[]⟩, ⟨2024, 1, 1, by decide, by decide, by decide⟩, none⟩
    let m : Mutation := .addGroup "r" (some (k "" [a "r", a "s-1", a "b"]))
    m.supplied? = some ("r", n) ∧ (m.apply ctx (.ofSeed "s") t).1 = .ok (t.append n') ∧
      n'.unnamed = n.unnamed ∧ n'.ids[3]? = some "b" ∧ n'.ids[2]? ≠ some "s-1" ∧
      IssuedBefore n.ids n'.ids 2 "s-1" := by
  intro a k t n n' ctx m
  have hm : m.supplied? = some ("r", n) := rfl
  have hok : (m.apply ctx (.ofSeed "s") t).1 = .ok (t.append n') := rfl
  obtain ⟨l, g, c, hg, ht, ht', hshape, hids⟩ :=
    supplied_ids_kept_iff ctx (.ofSeed "s") t (t.append n') m "r" n hm hok
  obtain ⟨rfl, rfl⟩ : c = [] ∧ t = g := by
    cases c with
    | nil => exact ⟨rfl, Group.toNode_inj.1 ht⟩
    | cons f c => simp [t, k, Group.toNode, Node.within, Frame.fill] at ht
  obtain rfl : n' = l := by
    have happend : t.append n' = t.append l := Group.toNode_inj.1 ht'
    simpa [Group.append] using happend
  have hissued : IssuedBefore n.ids n'.ids 2 "s-1" := ⟨0, by decide, by decide, by decide⟩
  refine ⟨hm, hok, hshape, ?_, ?_, hissued⟩
  · have hbefore : ∀ j < 3, n'.ids[j]? ≠ some "b" := by decide
    refine (hids 3 "b" rfl).1.2 ⟨by decide, by decide, by decide, ?_⟩
    rintro ⟨j, hlt, hj, -⟩
    exact hbefore j hlt hj
  · intro hkept
    exact ((hids 2 "s-1" rfl).1.1 hkept).2.2.2 hissued

/-- The condition in a group that comes without an id has an id that is neither taken nor repeated,
and still loses it: it is the first one that the source comes up with. -/
theorem unused_id_replaced :
    let a (id : String) : Node := .condition ⟨id, "x", .isEmpty, .null, none⟩
    let k (id : String) (children : List Node) : Group := ⟨⟨id, .and, false, none⟩, children⟩
    let t : Tree := .empty "r"
    let ctx : EditContext := ⟨⟨[]⟩, ⟨2024, 1, 1, by decide, by decide, by decide⟩, none⟩
    let s : IdSource := .forTree IdSource.defaultNamespace t
    "fabd65e8-1" ∉ t.ids ∧ (k "" [a "fabd65e8-1"]).ids.count "fabd65e8-1" = 1 ∧
      ((Mutation.addGroup "r" (some (k "" [a "fabd65e8-1"]))).apply ctx s t).1
        = .ok (t.append (k "fabd65e8-1" [a "fabd65e8-2"]).toNode) := by
  intro a k t ctx s
  exact ⟨by decide, by decide, by decide +kernel⟩

end Criteria
