import Criteria.Proofs.Document.Run
import Criteria.Proofs.Edit.Depth

namespace Criteria

namespace Document

/-- Whether all moves of a run that are not rejected have room. -/
def MovesHaveRoom (max : Nat) (d : Document) : List Action → Prop
  | [] => True
  | a :: actions =>
    (∀ today m outcome, a = .apply today m → (d.apply today m).1 = .ok outcome →
      m.HasRoom max d.tree) ∧
    (d.perform a).MovesHaveRoom max actions

theorem apply_cases (d : Document) (today : Date) (m : Mutation) :
    (∃ e, (m.apply ⟨d.catalog, today, d.options.maxDepth⟩ d.ids d.tree).1 = .error e ∧
      (d.apply today m).1 = .error e) ∨
    ∃ outcome, (m.apply ⟨d.catalog, today, d.options.maxDepth⟩ d.ids d.tree).1
        = .ok (d.apply today m).2.tree ∧ (d.apply today m).1 = .ok outcome := by
  rw [apply]
  cases m.apply ⟨d.catalog, today, d.options.maxDepth⟩ d.ids d.tree with
  | mk result ids =>
    cases result with
    | error e => exact .inl ⟨e, rfl, rfl⟩
    | ok t =>
      right
      dsimp only
      split
      · next he => exact ⟨_, congrArg Except.ok he, rfl⟩
      · exact ⟨_, congrArg Except.ok (History.current_push _ _ _).symm, rfl⟩

/-- A tree with distinct ids and all groups within the limit. -/
structure Fits (max : Nat) (t : Tree) : Prop where
  distinct : t.ids.Nodup
  within : t.IsWithin max

variable {d : Document} {max : Nat}

theorem fits_perform (hmax : d.options.maxDepth = some max) (hf : d.history.All (Fits max))
    (a : Action)
    (ha : ∀ today m outcome, a = .apply today m → (d.apply today m).1 = .ok outcome →
      m.HasRoom max d.tree)
    (hr : ∀ t, a = .reset t → Fits max t) : (d.perform a).history.All (Fits max) := by
  refine all_perform hf a ?_ hr
  intro today m t he ht
  rcases d.apply_cases today m with ⟨e, herror, -⟩ | ⟨outcome, -, hok⟩
  · cases ht.symm.trans herror
  · have hroom : m.HasRoom max d.tree := ha today m outcome he hok
    have hd := hf.current.distinct
    exact ⟨m.nodup_apply hd ht, (m.isWithin_apply_iff hd hmax hf.current.within ht).2 hroom⟩

theorem fits_run (hmax : d.options.maxDepth = some max) (hf : d.history.All (Fits max))
    (actions : List Action) (hroom : d.MovesHaveRoom max actions)
    (hr : ∀ t, .reset t ∈ actions → Fits max t) : (d.run actions).history.All (Fits max) := by
  induction actions generalizing d with
  | nil => exact hf
  | cons a actions ih =>
    apply ih
    · rw [options_perform]
      exact hmax
    · apply fits_perform hmax hf a hroom.1
      rintro t rfl
      exact hr t List.mem_cons_self
    · exact hroom.2
    · intro t ht
      exact hr t (List.mem_cons_of_mem _ ht)

theorem options_run (d : Document) (actions : List Action) : (d.run actions).options = d.options := by
  induction actions generalizing d with
  | nil => rfl
  | cons a actions ih => exact (ih _).trans (d.options_perform a)

end Document

/-- In a document with a limit on depth, opened on a tree within it, all trees that the history holds
stay within it as long as the moves have room. Then any further edit that is not rejected leaves the
tree within the limit if and only if it is no move, or a move that has room. -/
theorem limit_broken_by_moves_only (d : Document) (actions : List Document.Action) (max : Nat)
    (hn : d.IsNew) (hmax : d.options.maxDepth = some max) (hd : d.tree.ids.Nodup)
    (hw : d.tree.IsWithin max)
    (hr : ∀ t, .reset t ∈ actions → t.ids.Nodup ∧ t.IsWithin max)
    (hroom : d.MovesHaveRoom max actions) :
    ((d.run actions).tree.IsWithin max ∧
      ∀ x ∈ (d.run actions).history.snapshots, x.state.IsWithin max) ∧
    ∀ today m outcome, ((d.run actions).apply today m).1 = .ok outcome →
      (((d.run actions).apply today m).2.tree.IsWithin max ↔ m.HasRoom max (d.run actions).tree) := by
  have hstart : d.history.All (Document.Fits max) := by
    rw [hn.history]
    exact History.all_start ⟨hd, hw⟩
  have hall : (d.run actions).history.All (Document.Fits max) :=
    Document.fits_run hmax hstart actions hroom fun t ht => ⟨(hr t ht).1, (hr t ht).2⟩
  refine ⟨⟨hall.current.within, fun x hx => (hall x hx).within⟩, ?_⟩
  intro today m outcome hok
  have hmax' : (d.run actions).options.maxDepth = some max := by
    rw [Document.options_run]
    exact hmax
  rcases (d.run actions).apply_cases today m with ⟨e, -, herror⟩ | ⟨_, ht, -⟩
  · cases hok.symm.trans herror
  · exact m.isWithin_apply_iff hall.current.distinct hmax' hall.current.within ht

/-- A group moved down to the limit, and one more that is refused there. -/
theorem limit_broken_by_moves_only_at_limit :
    let day : Date := ⟨2024, 1, 1, by decide, by decide, by decide⟩
    let t : Tree := ⟨⟨"r", .and, false, none⟩,
      [(Group.empty "g").toNode, (Group.empty "h").toNode]⟩
    let d := Document.create t ⟨[]⟩ { maxDepth := some 2 }
    let actions : List Document.Action :=
      [.apply day (.moveNode "h" "g" 0), .apply day (.addGroup "h" none), .undo, .redo]
    t.ids.Nodup ∧ t.IsWithin 2 ∧ d.MovesHaveRoom 2 actions ∧
      (d.run actions).tree.IsWithin 2 := by
  intro day t d actions
  have hd : t.ids.Nodup := by decide
  have hw : t.IsWithin 2 := by decide
  have hroom : d.MovesHaveRoom 2 actions := by
    refine ⟨?_, ?_, ?_, ?_, trivial⟩ <;> rintro _ _ _ ⟨⟩ -
    · rintro n depth ⟨⟩ ⟨⟩
      decide
    · trivial
  refine ⟨hd, hw, hroom, ?_⟩
  refine (limit_broken_by_moves_only d actions 2 (.create _ _ _) rfl hd hw ?_ hroom).1.1
  intro t ht
  simp only [actions, List.mem_cons, reduceCtorEq, List.not_mem_nil, or_self] at ht

/-- A group moved below another one where there is no room for it. -/
theorem move_below_limit :
    let day : Date := ⟨2024, 1, 1, by decide, by decide, by decide⟩
    let t : Tree := ⟨⟨"r", .and, false, none⟩,
      [(Group.empty "g").toNode, (Group.empty "h").toNode]⟩
    let d := Document.create t ⟨[]⟩ { maxDepth := some 1 }
    d.IsNew ∧ d.options.maxDepth = some 1 ∧ d.tree.ids.Nodup ∧ d.tree.IsWithin 1 ∧
      ¬ (d.run [.apply day (.moveNode "h" "g" 0)]).tree.IsWithin 1 := by
  intro day t d
  exact ⟨.create _ _ _, rfl, by decide, by decide, by decide⟩

end Criteria
