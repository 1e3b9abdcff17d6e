import Criteria.Proofs.Edit.Distinct
import Criteria.Proofs.Edit.Revision

namespace Criteria

namespace Mutation

variable {m m' : Mutation} {ctx ctx' : EditContext} {s s' : IdSource} {t t' : Tree}
  {id id' : String} {r r' : Revision} {e : EditError}

theorem applyOrKeep_of_rejected (hm : m.revision? = some (id, r)) (hd : t.ids.Nodup)
    (h : m.Rejected ctx t e) : m.applyOrKeep ctx s t = (t, s) := by
  have herror : (m.apply ctx s t).1 = .error e := (m.apply_error_iff hd).2 h
  rw [applyOrKeep]
  simp only [herror, source_of_revision hm]
  rfl

theorem applyOrKeep_of_not_rejected (hm : m.revision? = some (id, r)) (hd : t.ids.Nodup)
    (h : ¬ ∃ e, m.Rejected ctx t e) : m.applyOrKeep ctx s t = (t.revise (r.on id), s) := by
  cases hresult : (m.apply ctx s t).1 with
  | error e => exact absurd ⟨e, (m.apply_error_iff hd).1 hresult⟩ h
  | ok t' =>
    rw [applyOrKeep]
    simp only [hresult, source_of_revision hm]
    rw [apply_of_revision hm hd hresult]
    rfl

theorem not_rejected_of_ok (hd : t.ids.Nodup) (h : (m.apply ctx s t).1 = .ok t') :
    ¬ ∃ e, m.Rejected ctx t e := by
  rintro ⟨e, hrejected⟩
  have herror : (m.apply ctx s t).1 = .error e := (m.apply_error_iff hd).2 hrejected
  rw [h] at herror
  cases herror

/-- What an edit makes of a tree, and of all that becomes of the tree by changes of what nodes say:
it changes the node with the id in all of them, or does nothing to any of them. -/
theorem exists_step (ctx : EditContext) (hm : m.revision? = some (id, r)) (hd : t.ids.Nodup) :
    ∃ f : Tree → Tree, ((∀ u, f u = u) ∨ ∀ u, f u = u.revise (r.on id)) ∧
      (∀ s, m.applyOrKeep ctx s t = (f t, s)) ∧
      ∀ r' s, m.applyOrKeep ctx s (t.revise r') = (f (t.revise r'), s) := by
  have hd' (r' : Revision) : (t.revise r').ids.Nodup := (Group.ids_revise r' t).symm ▸ hd
  by_cases hrejected : ∃ e, m.Rejected ctx t e
  · obtain ⟨e, hrejected⟩ := hrejected
    refine ⟨fun u => u, .inl fun u => rfl, fun s => applyOrKeep_of_rejected hm hd hrejected, ?_⟩
    intro r' s
    exact applyOrKeep_of_rejected hm (hd' r') ((rejected_revise hm hd).2 hrejected)
  · refine ⟨Group.revise (r.on id), .inr fun u => rfl,
      fun s => applyOrKeep_of_not_rejected hm hd hrejected, ?_⟩
    intro r' s
    apply applyOrKeep_of_not_rejected hm (hd' r')
    simpa only [rejected_revise hm hd] using hrejected

theorem run_of_ok {t₁ t₂ : Tree} (hm : m.revision? = some (id, r))
    (hm' : m'.revision? = some (id', r')) (hd : t.ids.Nodup) (h : (m.apply ctx s t).1 = .ok t₁)
    (h' : (m'.apply ctx' s t).1 = .ok t₂) :
    run s t [(ctx, m), (ctx', m')] = ((t.revise (r.on id)).revise (r'.on id'), s) := by
  have hd' : (t.revise (r.on id)).ids.Nodup := (Group.ids_revise _ t).symm ▸ hd
  have hafter : ¬ ∃ e, m'.Rejected ctx' (t.revise (r.on id)) e := by
    simpa only [rejected_revise hm' hd] using not_rejected_of_ok hd h'
  simp only [run, applyOrKeep_of_not_rejected hm hd (not_rejected_of_ok hd h),
    applyOrKeep_of_not_rejected hm' hd' hafter]

theorem error_after_revision (hm : m.revision? = some (id, r)) (hm' : m'.revision? = some (id', r'))
    (hd : t.ids.Nodup) :
    (m.apply ctx s' (m'.applyOrKeep ctx' s t).1).1 = .error e ↔ (m.apply ctx s t).1 = .error e := by
  obtain ⟨f, hf, hstep, -⟩ := exists_step ctx' hm' hd
  rw [hstep]
  rcases hf with hf | hf
  · rw [hf, m.apply_error_iff hd, m.apply_error_iff hd]
  · have hd' : (t.revise (r'.on id')).ids.Nodup := (Group.ids_revise _ t).symm ▸ hd
    rw [hf, m.apply_error_iff hd', m.apply_error_iff hd, rejected_revise hm hd]

end Mutation

theorem Group.revise_on_comm {id id' : String} (hne : id ≠ id') (r r' : Revision) (t : Tree) :
    (t.revise (r.on id)).revise (r'.on id') = (t.revise (r'.on id')).revise (r.on id) := by
  rw [← toNode_inj, toNode_revise, toNode_revise, toNode_revise, toNode_revise]
  exact Node.revise_on_comm hne t.toNode

/-- In a tree with distinct ids, two edits that change what two nodes say can be made in either
order, also if one of the nodes is in the other one: each is rejected for the same reason or
accepted in both, and the tree is the same in the end. If both are accepted, it is the tree that
there was with the two nodes changed. -/
theorem independent_edits_commute (c₁ c₂ : EditContext) (s : IdSource) (t : Tree)
    (m₁ m₂ : Mutation) (id₁ id₂ : String) (r₁ r₂ : Revision) (hd : t.ids.Nodup)
    (h₁ : m₁.revision? = some (id₁, r₁)) (h₂ : m₂.revision? = some (id₂, r₂)) (hne : id₁ ≠ id₂) :
    (∀ s' e, (m₁.apply c₁ s' (m₂.applyOrKeep c₂ s t).1).1 = .error e ↔
      (m₁.apply c₁ s t).1 = .error e) ∧
    (∀ s' e, (m₂.apply c₂ s' (m₁.applyOrKeep c₁ s t).1).1 = .error e ↔
      (m₂.apply c₂ s t).1 = .error e) ∧
    Mutation.run s t [(c₁, m₁), (c₂, m₂)] = Mutation.run s t [(c₂, m₂), (c₁, m₁)] ∧
    (∀ t₁ t₂, (m₁.apply c₁ s t).1 = .ok t₁ → (m₂.apply c₂ s t).1 = .ok t₂ →
      Mutation.run s t [(c₁, m₁), (c₂, m₂)] = ((t.revise (r₁.on id₁)).revise (r₂.on id₂), s)) := by
  refine ⟨fun s' e => Mutation.error_after_revision h₁ h₂ hd,
    fun s' e => Mutation.error_after_revision h₂ h₁ hd, ?_,
    fun t₁ t₂ hok₁ hok₂ => Mutation.run_of_ok h₁ h₂ hd hok₁ hok₂⟩
  obtain ⟨f₁, hf₁, hstep₁, hlater₁⟩ := Mutation.exists_step c₁ h₁ hd
  obtain ⟨f₂, hf₂, hstep₂, hlater₂⟩ := Mutation.exists_step c₂ h₂ hd
  have hcomm : f₂ (f₁ t) = f₁ (f₂ t) := by
    rcases hf₁ with hf₁ | hf₁
    · rw [hf₁, hf₁]
    · rcases hf₂ with hf₂ | hf₂
      · rw [hf₂, hf₂]
      · rw [hf₁, hf₁, hf₂, hf₂, Group.revise_on_comm hne]
  have hfirst : Mutation.run s t [(c₁, m₁), (c₂, m₂)] = (f₂ (f₁ t), s) := by
    simp only [Mutation.run, hstep₁]
    rcases hf₁ with hf₁ | hf₁
    · rw [hf₁, hstep₂]
    · rw [hf₁, hlater₂]
  have hsecond : Mutation.run s t [(c₂, m₂), (c₁, m₁)] = (f₁ (f₂ t), s) := by
    simp only [Mutation.run, hstep₂]
    rcases hf₂ with hf₂ | hf₂
    · rw [hf₂, hstep₁]
    · rw [hf₂, hlater₁]
  rw [hfirst, hsecond, hcomm]

/-- The combinator after a condition is set, and that of the group that it is in; the group is the
condition's parent, and its own combinator towards its neighbour is set as well. -/
theorem independent_edits_commute_parent :
    let a (edge : Option Combinator) : Node := .condition ⟨"a", "x", .isEmpty, .null, edge⟩
    let k : Node := .group ⟨"k", .or, true, none⟩ []
    let g (h : Header) (edge : Option Combinator) : Node := .group h [a edge, k]
    let t : Tree := ⟨⟨"r", .and, false, none⟩, [g ⟨"g", .and, false, none⟩ none]⟩
    let t' : Tree := ⟨t.header, [g ⟨"g", .or, false, some .and⟩ (some .or)]⟩
    let ctx : EditContext := ⟨⟨[]⟩, ⟨2024, 1, 1, by decide, by decide, by decide⟩, none⟩
    let s : IdSource := .ofSeed "s"
    let m₁ : Mutation := .updateGroup "g" { combinator := some .or, edge := some .and }
    let m₂ : Mutation := .setEdge "a" (some .or)
    t.ids.Nodup ∧ Mutation.run s t [(ctx, m₁), (ctx, m₂)] = (t', s) ∧
      Mutation.run s t [(ctx, m₂), (ctx, m₁)] = (t', s) := by
  intro a k g t t' ctx s m₁ m₂
  have hd : t.ids.Nodup := by decide
  have hrun : Mutation.run s t [(ctx, m₁), (ctx, m₂)] = (t', s) := rfl
  obtain ⟨-, -, hcomm, -⟩ :=
    independent_edits_commute ctx ctx s t m₁ m₂ "g" "a" _ _ hd rfl rfl (by decide)
  exact ⟨hd, hrun, hcomm.symm.trans hrun⟩

end Criteria
