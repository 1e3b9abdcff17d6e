import Criteria.Edit.Mutation
import Criteria.Export
import Criteria.Proofs.Edit.Distinct
import Criteria.Proofs.Edit.Rejection
import Criteria.Proofs.Rendering

namespace Criteria

variable {α : Type} {r : Rendering α}

namespace Node

theorem parts_append (r : Rendering α) (h : Header) (ns ms : List Node) :
    parts r h (ns ++ ms) = parts r h ns ++ parts r h ms := by
  induction ns with
  | nil => rfl
  | cons n ns ih =>
    rw [List.cons_append, parts, parts]
    cases n.render? r with
    | none => exact ih
    | some a => exact congrArg (List.cons _) ih

theorem parts_singleton_eq_nil (h : Header) {n : Node} (hn : n.conditions = []) :
    parts r h [n] = [] := by
  rw [parts_eq_nil, conditionsOf, hn]
  rfl

theorem parts_singleton_congr (h : Header) {n m : Node} (hr : n.render? r = m.render? r)
    (he : n.edge = m.edge) : parts r h [n] = parts r h [m] := by
  rw [parts, parts, hr, he]
  rfl

end Node

/-- Two groups that a rendering cannot tell apart, wherever they stand. -/
structure Group.SameParts (r : Rendering α) (g k : Group) : Prop where
  header : g.header = k.header
  parts : Node.parts r g.header g.children = Node.parts r k.header k.children

namespace Group.SameParts

variable {t u g k : Group}

theorem render?_eq (h : SameParts r g k) : g.render? r = k.render? r := by
  rw [render?, render?, h.parts, h.header]

theorem render?_toNode (h : SameParts r g k) : g.toNode.render? r = k.toNode.render? r := by
  rw [toNode, toNode, Node.render?, Node.render?, h.parts, h.header]

theorem edge_toNode (h : SameParts r g k) : g.toNode.edge = k.toNode.edge :=
  congrArg Header.edge h.header

/-- A child is exchanged without a trace for one that renders alike and has the same edge. -/
theorem exchange (f : Frame) {n m : Node} (hr : n.render? r = m.render? r) (he : n.edge = m.edge) :
    SameParts r ⟨f.header, f.before ++ [n] ++ f.after⟩ ⟨f.header, f.before ++ [m] ++ f.after⟩ := by
  have hpart := Node.parts_singleton_congr f.header hr he
  exact ⟨rfl, by simp only [Node.parts_append, hpart]⟩

theorem fill (f : Frame) (h : SameParts r g k) :
    SameParts r ⟨f.header, f.before ++ [g.toNode] ++ f.after⟩
      ⟨f.header, f.before ++ [k.toNode] ++ f.after⟩ :=
  exchange f h.render?_toNode h.edge_toNode

/-- Groups stay indistinguishable in a context. -/
theorem within (h : SameParts r g k) {c : List Frame} (ht : t.toNode = g.toNode.within c)
    (hu : u.toNode = k.toNode.within c) : SameParts r t u := by
  induction c generalizing t u with
  | nil =>
    obtain rfl := toNode_inj.1 ht
    obtain rfl := toNode_inj.1 hu
    exact h
  | cons f c ih =>
    obtain ⟨t', ht'⟩ := g.exists_toNode_eq_within c
    obtain ⟨u', hu'⟩ := k.exists_toNode_eq_within c
    have hfill (t : Group) : f.fill t.toNode =
        toNode ⟨f.header, f.before ++ [t.toNode] ++ f.after⟩ := by
      rw [List.append_assoc, List.singleton_append]
      rfl
    rw [Node.within, ← ht', hfill, toNode_inj] at ht
    rw [Node.within, ← hu', hfill, toNode_inj] at hu
    rw [ht, hu]
    exact (ih ht' hu').fill f

theorem of_condition {c d : Condition} {frames : List Frame}
    (ht : t.toNode = (Node.condition c).within frames)
    (hu : u.toNode = (Node.condition d).within frames) (hr : r.condition c = r.condition d)
    (he : c.edge = d.edge) : SameParts r t u := by
  rcases List.eq_nil_or_concat frames with rfl | ⟨outer, f, rfl⟩
  · cases ht
  · have hfill (n : Node) : n.within [f] = toNode ⟨f.header, f.before ++ [n] ++ f.after⟩ := by
      rw [List.append_assoc, List.singleton_append]
      rfl
    have hinner := exchange f (n := .condition c) (m := .condition d) (congrArg some hr) he
    rw [List.concat_eq_append, Node.within_append, hfill] at ht hu
    exact hinner.within ht hu

theorem fill_nil (p : Place) (hp : p.node.conditions = []) :
    SameParts r (p.fill [p.node]) (p.fill []) := by
  have hpart : Node.parts r p.header [p.node] = Node.parts r p.header [] :=
    Node.parts_singleton_eq_nil p.header hp
  exact ⟨rfl, by simp only [Place.fill, Node.parts_append, hpart]⟩

end Group.SameParts

namespace Group

variable {t u : Tree} {id : String} {n : Node}

theorem exists_deleteNode (hd : t.ids.Nodup) (hroot : t.id ≠ id) (hn : t.find? id = some n) :
    ∃ u, t.deleteNode id = .ok u := by
  have hfind : t.toNode.find? id = some n := (find?_toNode t id).trans ((if_neg hroot).trans hn)
  obtain ⟨hhas, rfl⟩ := (find?_iff_has hd).1 hfind
  obtain ⟨p, hp⟩ := exists_place hd hroot hhas.mem_ids
  exact ⟨_, by rw [deleteNode, editPlace_eq, hp]; rfl⟩

theorem sameParts_deleteNode (hd : t.ids.Nodup) (hn : t.find? id = some n)
    (hempty : n.conditions = []) (h : t.deleteNode id = .ok u) : SameParts r t u := by
  obtain ⟨p, hp, rfl⟩ := editPlace_ok h
  obtain rfl : p.node = n := Option.some.inj ((find?_of_place hd hp).symm.trans hn)
  obtain ⟨c, ht, hc⟩ := place_within hp
  exact (SameParts.fill_nil p hempty).within ht (hc [])

end Group

/-- A group without conditions can be deleted wherever it stands, with all that is in it and nothing
else, and no output of the tree changes. -/
theorem outputs_deleteNode_of_no_condition (ctx : EditContext) (s : IdSource) (t : Tree)
    (g : Group) (id : String) (catalog : Catalog) (o : Export.Options) (hd : t.ids.Nodup)
    (hroot : t.id ≠ id) (hg : t.findGroup? id = some g) (hempty : g.conditions = []) :
    ∃ u, (Mutation.deleteNode id).apply ctx s t = (.ok u, s) ∧ (g.ids ++ u.ids).Perm t.ids ∧
      Readable.compile u catalog o.readable = Readable.compile t catalog o.readable ∧
      Sql.compile u catalog o.sql = Sql.compile t catalog o.sql ∧
      Mongo.compile u catalog o.mongo = Mongo.compile t catalog o.mongo := by
  have hn : t.find? id = some g.toNode := by
    have hfind := Group.findGroup?_eq_some.1 hg
    rwa [Group.find?_toNode, if_neg hroot] at hfind
  obtain ⟨u, hu⟩ := Group.exists_deleteNode hd hroot hn
  have hrender {α : Type} (r : Rendering α) : u.render? r = t.render? r :=
    (Group.sameParts_deleteNode hd hn hempty hu).render?_eq.symm
  refine ⟨u, congrArg (·, s) hu, Group.perm_deleteNode hd hn hu, ?_, ?_, ?_⟩
  · rw [Readable.compile, Readable.compile, hrender]
  · rw [Sql.compile, Sql.compile, Sql.clause?, Sql.clause?, hrender]
  · rw [Mongo.compile, Mongo.compile, Mongo.filter?, Mongo.filter?, hrender]

/-- A negated group of empty groups between two conditions. The combinator after it would lead to
another filter, but the one before it is the one that stays. -/
theorem outputs_deleteNode_of_no_condition_between :
    let inner : Node := .group ⟨"inner", .or, false, some .and⟩ []
    let g : Group := ⟨⟨"g", .and, true, some .or⟩, [.group ⟨"h", .or, true, none⟩ [inner]]⟩
    let a : Node := .condition ⟨"a", "x", .equals, .text "1", none⟩
    let b : Node := .condition ⟨"b", "y", .equals, .text "2", some .or⟩
    let t : Tree := ⟨⟨"r", .and, true, none⟩, [a, g.toNode, b]⟩
    let ctx : EditContext := ⟨⟨[]⟩, ⟨2024, 1, 1, by decide, by decide, by decide⟩, none⟩
    let s : IdSource := .ofSeed "s"
    t.ids.Nodup ∧ t.id ≠ "g" ∧ t.findGroup? "g" = some g ∧ g.conditions = [] ∧
      Sql.compile t ⟨[]⟩ {} = "NOT (x = '1' AND y = '2')" ∧
      ∃ u, (Mutation.deleteNode "g").apply ctx s t = (.ok u, s) ∧
        Sql.compile u ⟨[]⟩ {} = "NOT (x = '1' AND y = '2')" := by
  intro inner g a b t ctx s
  have hd : t.ids.Nodup := by decide
  have hroot : t.id ≠ "g" := by decide
  have hg : t.findGroup? "g" = some g := by decide
  have hempty : g.conditions = [] := by decide
  have hsql : Sql.compile t ⟨[]⟩ {} = "NOT (x = '1' AND y = '2')" := by decide +kernel
  obtain ⟨u, hu, -, -, hsame, -⟩ :=
    outputs_deleteNode_of_no_condition ctx s t g "g" ⟨[]⟩ {} hd hroot hg hempty
  exact ⟨hd, hroot, hg, hempty, hsql, u, hu, hsame.trans hsql⟩

end Criteria
