import Criteria.Proofs.Document.Steps
import Criteria.Proofs.History.Neighbours

namespace Criteria

namespace Document

/-- The history after a run on a document whose snapshots are all fresh, with the marks of those
that batches have written again. -/
def rewritten (d : Document) (actions : List Action) : History (Tree × Bool) :=
  (d.history.map (·, false)).runMarked History.rewriting (d.steps actions)

theorem openBatch_notMem_steps {actions : List Action} (d : Document)
    (ha : ∀ label, .openBatch label ∉ actions) : .openBatch ∉ d.steps actions := by
  induction actions generalizing d with
  | nil => exact List.not_mem_nil
  | cons a actions ih =>
    have htail := ih (d.perform a) fun label hm => ha label (List.mem_cons_of_mem _ hm)
    have hhead : .openBatch ∉ d.stepsOf a := by
      cases a with
      | openBatch label => exact absurd List.mem_cons_self (ha label)
      | apply today m =>
        rw [stepsOf]
        split <;> simp only [List.mem_singleton, List.not_mem_nil, reduceCtorEq, not_false_eq_true]
      | undo | redo | closeBatch | reset | mergeOptions | setCatalog | setLintOptions | save
      | saveAs =>
        simp only [stepsOf, List.mem_singleton, List.not_mem_nil, reduceCtorEq, not_false_eq_true]
    rw [steps, List.mem_append]
    exact fun hm => hm.elim hhead htail

variable {d d' : Document} {g g' : History (Tree × Bool)}

theorem current_unmarked (hg : g.map Prod.fst = d.history) : g.current.1 = d.tree := by
  rw [tree, ← hg, History.current, History.current, History.now_map, History.current]

theorem undo?_unmarked (hg : g.map Prod.fst = d.history) (hu : d.undo? = some d') :
    ∃ g', g.undo? = some g' ∧ g'.current.1 = d'.tree := by
  have h := history_undo? hu
  rw [← hg, History.undo?_map] at h
  obtain ⟨g', hg', he⟩ := Option.map_eq_some_iff.1 h
  exact ⟨g', hg', current_unmarked he⟩

theorem redo?_unmarked (hg : g.map Prod.fst = d.history) (hr : d.redo? = some d') :
    ∃ g', g.redo? = some g' ∧ g'.current.1 = d'.tree := by
  have h := history_redo? hr
  rw [← hg, History.redo?_map] at h
  obtain ⟨g', hg', he⟩ := Option.map_eq_some_iff.1 h
  exact ⟨g', hg', current_unmarked he⟩

theorem map_history (d : Document) : (d.history.map (·, false)).map Prod.fst = d.history := by
  refine History.ext ?_ rfl rfl rfl
  exact (List.map_map ..).trans (List.map_id' _)

theorem map_rewritten (d : Document) (actions : List Action) :
    (d.rewritten actions).map Prod.fst = (d.run actions).history := by
  rw [rewritten, History.map_fst_runMarked, map_history, history_run]

theorem stepwise_rewritten (hn : d.IsNew) (actions : List Action) :
    (d.rewritten actions).Stepwise := by
  refine History.Stepwise.runMarked ?_ ?_
  · rw [hn.history]
    exact History.stepwise_start _ _
  · rw [map_history]
    exact d.changing_steps actions

end Document

/-- Whatever is done with a document, neighbouring snapshots are different trees, unless the later
one is that of a batch which has written it again; without batches all are. So undo changes the tree
unless it leaves such a snapshot, and redo unless it leads to one. -/
theorem undo_steps_change_tree (d : Document) (actions : List Document.Action) (hn : d.IsNew) :
    let g := d.rewritten actions
    g.map Prod.fst = (d.run actions).history ∧
      g.snapshots.IsChain (fun s s' => s'.state.2 = false → s.state.1 ≠ s'.state.1) ∧
      ((∀ label, .openBatch label ∉ actions) →
        (d.run actions).history.snapshots.IsChain fun s s' => s.state ≠ s'.state) ∧
      (∀ d', (d.run actions).undo? = some d' → g.current.2 = false →
        d'.tree ≠ (d.run actions).tree) ∧
      ∀ d' g', (d.run actions).redo? = some d' → g.redo? = some g' → g'.current.2 = false →
        d'.tree ≠ (d.run actions).tree := by
  intro g
  have hmap : g.map Prod.fst = (d.run actions).history := d.map_rewritten actions
  have hg : g.Stepwise := Document.stepwise_rewritten hn actions
  have htree : g.current.1 = (d.run actions).tree := Document.current_unmarked hmap
  refine ⟨hmap, hg.differ, fun ha => ?_, fun d' hu hfresh => ?_, fun d' g' hr hr' hfresh => ?_⟩
  · rw [← hmap]
    refine hg.ne (History.fresh_runMarked ?_ ?_ (d.openBatch_notMem_steps ha))
    · rw [hn.history]
      exact History.all_start rfl
    · rw [hn.history]
      rfl
  · obtain ⟨g', hu', he⟩ := Document.undo?_unmarked hmap hu
    rw [← he, ← htree]
    exact hg.undo? hu' hfresh
  · obtain ⟨g'', hr'', he⟩ := Document.redo?_unmarked hmap hr
    cases hr'.symm.trans hr''
    rw [← he, ← htree]
    exact (hg.redo? hr' hfresh).symm

/-- Edits inside and outside of a batch, the batch undone and made again. -/
theorem undo_steps_change_tree_mixed :
    let day : Date := ⟨2024, 1, 1, by decide, by decide, by decide⟩
    let d := Document.create ⟨⟨"r", .and, false, none⟩, []⟩ ⟨[]⟩ {}
    let actions : List Document.Action :=
      [.apply day (.toggleNegation "r"), .openBatch "b", .apply day (.toggleNegation "r"),
        .apply day (.setCombinator "r" .or), .closeBatch, .apply day (.toggleNegation "r"), .undo,
        .undo]
    (d.rewritten actions).snapshots.IsChain
        (fun s s' => s'.state.2 = false → s.state.1 ≠ s'.state.1) ∧
      ∀ d', (d.run actions).undo? = some d' → d'.tree ≠ (d.run actions).tree := by
  intro day d actions
  obtain ⟨-, hdiffer, -, hundo, -⟩ := undo_steps_change_tree d actions (.create _ _ _)
  exact ⟨hdiffer, fun d' hu => hundo d' hu (by decide)⟩

/-- A batch whose edits take each other back: the snapshot that it leaves is the tree from before
it, and undo has a step to take that changes nothing. -/
theorem batch_that_changes_nothing :
    let day : Date := ⟨2024, 1, 1, by decide, by decide, by decide⟩
    let d := Document.create ⟨⟨"r", .and, false, none⟩, []⟩ ⟨[]⟩ {}
    let d' := d.run [.openBatch "b", .apply day (.toggleNegation "r"),
      .apply day (.toggleNegation "r"), .closeBatch]
    d.IsNew ∧ ¬ d'.history.snapshots.IsChain (fun s s' => s.state ≠ s'.state) ∧
      ∃ d'', d'.undo? = some d'' ∧ d''.tree = d'.tree := by
  intro day d d'
  refine ⟨.create _ _ _, ?_, _, rfl, by decide⟩
  have hs : d'.history.snapshots.map (·.state) = [d.tree, d.tree] := by decide
  intro hdiffer
  have := (List.isChain_map (R := (· ≠ ·)) fun s : Snapshot Tree => s.state).2 hdiffer
  rw [hs] at this
  exact (List.isChain_cons_cons.1 this).1 rfl

end Criteria
