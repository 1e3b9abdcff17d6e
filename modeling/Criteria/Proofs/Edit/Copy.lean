import Criteria.Proofs.Edit.Assign
import Criteria.Proofs.Edit.Distinct
import Criteria.Proofs.Edit.Locality

namespace Criteria

open IdSource (period)

namespace Node

variable {n : Node} {c : Claims} {id : String}

theorem exists_draw_of_mem_copy (hroom : c.taken.length + n.ids.length ≤ period)
    (h : id ∈ (n.copy c).1.ids) : ∃ k, c.ids.draw k = id := by
  have hids : (n.copy c).1.ids = (Claims.assignAll (fun c _ => c.fresh) c n.ids).1 :=
    congrArg Prod.fst (relabel_assigns c n)
  rw [hids] at h
  obtain ⟨i, hi⟩ := List.mem_iff_getElem?.1 h
  have hlt : i < n.ids.length := Claims.lt_length_of_getElem? hi
  obtain ⟨d, hd, htaken, hreaches⟩ := Claims.getElem?_assignAll (c := c) Claims.fresh_assigns
    Claims.fresh_draws (List.getElem?_eq_getElem hlt)
  obtain rfl : id = d.fresh.1 := Option.some.inj (hi.symm.trans hd)
  exact Claims.exists_draw_eq_fresh hreaches htaken hlt hroom

end Node

namespace Group

variable {t : Tree} {n : Node} {c : List Frame} {k : Frame}

theorem cloneNode_of_within (after : Bool) (s : IdSource) (hd : t.ids.Nodup)
    (hn : t.toNode = n.within (c ++ [k])) :
    ∃ t', (t.cloneNode n.id after s).1 = .ok t' ∧
      t'.toNode = (Node.group k.header
        (k.before ++ (if after then [n, (n.copy (.ofTree s t)).1]
          else [(n.copy (.ofTree s t)).1, n]) ++ k.after)).within c := by
  rw [cloneNode, place_of_within hd hn]
  exact ⟨_, rfl, replace_of_within hd hn _⟩

end Group

/-- In a tree with distinct ids, every node below the root can be copied, whatever ids the source
comes up with. The copy gets the place right after the node, or right before it, and says the same.
All its ids are new to the tree and differ from one another; as long as there are not more of them
than a counter has, they are issued by the source. -/
theorem copies_stand_beside (t : Tree) (n : Node) (c : List Frame) (k : Frame) (after : Bool)
    (s : IdSource) (hd : t.ids.Nodup) (hn : t.toNode = n.within (c ++ [k])) :
    ∃ (t' : Tree) (copy : Node),
      (t.cloneNode n.id after s).1 = .ok t' ∧
      t'.toNode = (Node.group k.header
        (k.before ++ (if after then [n, copy] else [copy, n]) ++ k.after)).within c ∧
      copy.unnamed = n.unnamed ∧ copy.ids.Nodup ∧ (∀ id ∈ copy.ids, id ∉ t.ids) ∧
      (t.ids.length + n.ids.length ≤ period → ∀ id ∈ copy.ids, ∃ j, s.draw j = id) := by
  obtain ⟨t', hok, ht'⟩ := Group.cloneNode_of_within after s hd hn
  have hnew : ((n.copy (.ofTree s t)).1.ids ++ t.ids).Nodup :=
    Group.nodup_enter Claims.fresh_assigns hd s n
  refine ⟨t', _, hok, ht', Node.unnamed_relabel _ n, hnew.of_append_left, ?_, ?_⟩
  · intro id hcopy htree
    exact List.disjoint_of_nodup_append hnew hcopy htree
  · intro hroom id hid
    exact Node.exists_draw_of_mem_copy (c := .ofTree s t) hroom hid

/-- A group is copied right before itself. The first ids that the source comes up with are those of
the group and of the condition in it. -/
theorem copies_stand_beside_before :
    let a (id : String) : Node := .condition ⟨id, "x", .isEmpty, .null, some .or⟩
    let g (id : String) (child : Node) : Node := .group ⟨id, .or, true, some .and⟩ [child]
    let n : Node := g "s-2" (a "s-1")
    let t : Tree := ⟨⟨"r", .and, false, none⟩, [n, a "z"]⟩
    t.ids.Nodup ∧ ∃ (t' : Tree) (copy : Node),
      (t.cloneNode "s-2" false (.ofSeed "s")).1 = .ok t' ∧
      t' = ⟨t.header, [copy, n, a "z"]⟩ ∧ copy = g "s-3" (a "s-4") ∧ copy.unnamed = n.unnamed ∧
      ∀ id ∈ copy.ids, id ∉ t.ids := by
  intro a g n t
  have hd : t.ids.Nodup := by decide
  obtain ⟨t', copy, hok, ht', hshape, -, hnew, -⟩ :=
    copies_stand_beside t n [] ⟨t.header, [], [a "z"]⟩ false (.ofSeed "s") hd rfl
  have hcopied : (t.cloneNode "s-2" false (.ofSeed "s")).1 =
      .ok ⟨t.header, [g "s-3" (a "s-4"), n, a "z"]⟩ := by rfl
  obtain rfl := Except.ok.inj (hok.symm.trans hcopied)
  obtain rfl : g "s-3" (a "s-4") = copy := by
    simpa [Node.within, Group.toNode] using ht'
  exact ⟨hd, _, _, hok, rfl, rfl, hshape, hnew⟩

end Criteria
