import Criteria.Proofs.Document.Run
import Criteria.Proofs.Edit.Distinct

namespace Criteria

theorem Document.keeps_nodup (options : Options) : Keeps (fun t => t.ids.Nodup) options :=
  fun m _ _ _ _ _ hd h => m.nodup_apply hd h

/-- However a tree with distinct ids is edited, from whatever source of ids, its ids stay distinct;
so do those of the current tree and of all snapshots of a document, whatever is done with it. -/
theorem ids_stay_distinct :
    (∀ (s : IdSource) (t : Tree) (edits : List (EditContext × Mutation)),
      t.ids.Nodup → (Mutation.run s t edits).1.ids.Nodup) ∧
    ∀ (d : Document) (actions : List Document.Action), d.IsNew → d.tree.ids.Nodup →
      (∀ t, .reset t ∈ actions → t.ids.Nodup) →
      (d.run actions).tree.ids.Nodup ∧
        ∀ x ∈ (d.run actions).history.snapshots, x.state.ids.Nodup := by
  refine ⟨fun s t edits hd => Mutation.nodup_run edits s hd, fun d actions hn hd hr => ?_⟩
  have hstart : d.history.All fun t => t.ids.Nodup := by
    rw [hn.history]
    exact History.all_start hd
  have hall := Document.all_run (Document.keeps_nodup d.options) hstart actions hr
  exact ⟨hall.current, hall⟩

/-- A supplied group whose ids collide with the tree and with one another, then a copy of it, from a
source that has seen neither. -/
theorem ids_stay_distinct_collision :
    let t : Tree := ⟨⟨"r", .and, false, none⟩, [.condition ⟨"x-1", "age", .equals, .null, none⟩]⟩
    let g : Group :=
      ⟨⟨"x-1", .or, false, none⟩, [(Group.empty "x-2").toNode, (Group.empty "x-2").toNode]⟩
    let ctx : EditContext := ⟨⟨[]⟩, ⟨2024, 1, 1, by decide, by decide, by decide⟩, none⟩
    let d := Document.create t ⟨[]⟩ {}
    t.ids.Nodup ∧
      (Mutation.run (.ofSeed "x") t
        [(ctx, .addGroup "r" (some g)), (ctx, .cloneNode "x-2" true)]).1.ids.Nodup ∧
      (d.run [.apply ctx.today (.addGroup "r" (some g)), .undo, .redo, .reset t]).tree.ids.Nodup := by
  intro t g ctx d
  have ht : t.ids.Nodup := by decide
  refine ⟨ht, ids_stay_distinct.1 _ t _ ht, ?_⟩
  refine (ids_stay_distinct.2 d _ (.create t _ _) ht fun u hu => ?_).1
  simp only [List.mem_cons, reduceCtorEq, Document.Action.reset.injEq, List.not_mem_nil, or_false,
    false_or] at hu
  rw [hu]
  exact ht

end Criteria
