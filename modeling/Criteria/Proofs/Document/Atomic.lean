import Criteria.Proofs.Document.Run
import Criteria.Proofs.Edit.Issue

namespace Criteria

namespace Document

variable {d : Document} {today : Date} {m : Mutation}

/-- Only an edit that makes another tree changes more of a document than the source of ids. -/
theorem apply_of_not_changed
    (h : ∀ outcome, (d.apply today m).1 = .ok outcome → outcome.changed = false) :
    (d.apply today m).2
      = { d with ids := (m.apply ⟨d.catalog, today, d.options.maxDepth⟩ d.ids d.tree).2 } := by
  rw [apply] at h ⊢
  cases hm : m.apply ⟨d.catalog, today, d.options.maxDepth⟩ d.ids d.tree with
  | mk result ids =>
    rw [hm] at h
    cases result with
    | error e => rfl
    | ok t =>
      dsimp only at h ⊢
      split at h
      · next he => rw [if_pos he]
      · cases h _ rfl

end Document

/-- Whatever has been done with a document, an edit of it that is rejected or changes nothing has
ids issued, and leaves all else as it was: the tree and the history with its batch, the version, the
mark of unsaved changes, the findings, the catalog and the saved query. The counter of ids goes up
by the ids that were issued as long as it does not reach the end of its period. -/
theorem edits_without_effect_issue_ids (d : Document) (today : Date) (m : Mutation)
    (h : ∀ outcome, (d.apply today m).1 = .ok outcome → outcome.changed = false) :
    ∃ k, (d.apply today m).2 = { d with ids := d.ids.issued k } ∧
      (d.ids.count + k < IdSource.period → (d.ids.issued k).count = d.ids.count + k) := by
  obtain ⟨k, hk⟩ := m.reaches_apply ⟨d.catalog, today, d.options.maxDepth⟩ d.ids d.tree
  refine ⟨k, ?_, ?_⟩
  · rw [Document.apply_of_not_changed h, hk]
  · intro hlt
    rw [IdSource.issued_of_lt hlt]

/-- A group in a batch that lies too deep, and was given an id before it was refused. -/
theorem edits_without_effect_issue_ids_batch :
    let day : Date := ⟨2024, 1, 1, by decide, by decide, by decide⟩
    let d := (Document.create (.empty "r") ⟨[]⟩ { maxDepth := some 1 }).run
      [.openBatch "b", .apply day (.addGroup "r" (some (.empty "g")))]
    (d.apply day (.addGroup "g" none)).1 = .error (.tooDeep 1) ∧
      d.ids.count < (d.apply day (.addGroup "g" none)).2.ids.count ∧
      ∃ k, (d.apply day (.addGroup "g" none)).2 = { d with ids := d.ids.issued k } := by
  intro day d
  have herror : (d.apply day (.addGroup "g" none)).1 = .error (.tooDeep 1) := rfl
  have hnone : ∀ outcome, (d.apply day (.addGroup "g" none)).1 = .ok outcome →
      outcome.changed = false := by
    rw [herror]
    rintro outcome ⟨⟩
  obtain ⟨k, hk, -⟩ := edits_without_effect_issue_ids d day (.addGroup "g" none) hnone
  exact ⟨herror, by decide +kernel, k, hk⟩

/-- A source of ids that has seen the last number there is. It starts over with an edit that is
refused. -/
theorem counter_starts_over :
    let day : Date := ⟨2024, 1, 1, by decide, by decide, by decide⟩
    let t : Tree := .empty "fabd65e8-18446744073709551615"
    let d := Document.create t ⟨[]⟩ { maxDepth := some 0 }
    d.IsNew ∧ (d.apply day (.addGroup t.id none)).1 = .error (.tooDeep 0) ∧
      (d.apply day (.addGroup t.id none)).2.ids.count < d.ids.count := by
  intro day t d
  exact ⟨.create _ _ _, rfl, by decide +kernel⟩

end Criteria
