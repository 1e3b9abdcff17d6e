import Criteria.Pipeline
import Criteria.Proofs.Document.Version

namespace Criteria

namespace Pipeline

inductive Action where
  | apply (today : Date) (m : Mutation)
  | undo
  | redo
  | outputs
  | clearCache
  /-- Works on the document past the pipeline. -/
  | document (a : Document.Action)

/-- The pipeline after an action; one that is rejected, or has nothing to do, still counts. -/
def perform (p : Pipeline) : Action → Pipeline
  | .apply today m => (p.apply today m).2
  | .undo => (p.undo?.map (·.2)).getD p
  | .redo => (p.redo?.map (·.2)).getD p
  | .outputs => p.outputs.2
  | .clearCache => p.clearCache
  | .document a => { p with document := p.document.perform a }

/-- What an action reports, if it is an edit that is not rejected or a step that can be taken. -/
def report? (p : Pipeline) : Action → Option Report
  | .apply today m => (p.apply today m).1.toOption
  | .undo => p.undo?.map (·.1)
  | .redo => p.redo?.map (·.1)
  | .outputs | .clearCache | .document _ => none

def run (p : Pipeline) (actions : List Action) : Pipeline := actions.foldl perform p

/-- The exports made anew. -/
def fresh (p : Pipeline) : Export.Bundle :=
  Export.all p.document.tree p.document.catalog p.options

/-- The findings are up to date, and so are the exports in the cache if they are of this version.
None are of a version to come. -/
structure IsCoherent (p : Pipeline) : Prop where
  linted : p.document.IsLinted
  version_le : ∀ v b, p.cache = some (v, b) → v ≤ p.document.version
  bundle_eq : ∀ b, p.cache = some (p.document.version, b) → b = p.fresh

variable {p : Pipeline}

theorem isCoherent_ofDocument {d : Document} (hd : d.IsLinted) (options : Export.Options) :
    (ofDocument d options).IsCoherent where
  linted := hd
  version_le := by
    intro v b hb
    cases hb
  bundle_eq := by
    intro b hb
    cases hb

/-- Exports of the version that the document had can only be in use as long as it has that version,
and then it has the same tree and catalog. -/
theorem IsCoherent.advance (hp : p.IsCoherent) {e : Document} (h : p.document.Advance e) :
    { p with document := e }.IsCoherent where
  linted := h.isLinted hp.linted
  version_le := by
    intro v b hb
    exact Nat.le_trans (hp.version_le v b hb) h.version_le
  bundle_eq := by
    intro b hb
    have hversion : e.version = p.document.version :=
      Nat.le_antisymm (hp.version_le _ b hb) h.version_le
    obtain ⟨htree, hcatalog⟩ := h.same_of_version hversion
    have hcache : p.cache = some (p.document.version, b) := hversion ▸ hb
    have hbundle := hp.bundle_eq b hcache
    rw [fresh] at hbundle ⊢
    rw [htree, hcatalog]
    exact hbundle

theorem IsCoherent.clearCache (hp : p.IsCoherent) : p.clearCache.IsCoherent where
  linted := hp.linted
  version_le := by
    intro v b hb
    cases hb
  bundle_eq := by
    intro b hb
    cases hb

theorem IsCoherent.outputs_eq (hp : p.IsCoherent) :
    p.outputs = (p.fresh, { p with cache := some (p.document.version, p.fresh) }) := by
  have hfst : p.outputs.1 = p.fresh := by
    rw [outputs]
    cases hcache : p.cache with
    | none => rfl
    | some entry =>
      obtain ⟨v, b⟩ := entry
      dsimp only
      split
      · next hv => exact hp.bundle_eq b (hv ▸ hcache)
      · rfl
  have hsnd : p.outputs.2 = { p with cache := some (p.document.version, p.outputs.1) } := rfl
  rw [← hfst]
  exact Prod.ext rfl hsnd

theorem IsCoherent.outputs (hp : p.IsCoherent) : p.outputs.2.IsCoherent := by
  rw [hp.outputs_eq]
  refine ⟨hp.linted, ?_, ?_⟩
  · intro v b hb
    cases hb
    exact Nat.le_refl _
  · intro b hb
    cases hb
    rfl

theorem IsCoherent.report (hp : p.IsCoherent) (changed : Bool) :
    p.report changed
      = (⟨p.document.version, changed, p.document.findings, p.fresh⟩, p.outputs.2) := by
  rw [Pipeline.report, hp.outputs_eq]

theorem perform_cases (p : Pipeline) (a : Action) :
    (p.perform a = p.clearCache ∧ p.report? a = none) ∨
      ∃ e, p.document.Advance e ∧
        ((p.perform a = { p with document := e } ∧ p.report? a = none) ∨
          (p.perform a = { p with document := e }.outputs.2 ∧
            ∀ r, p.report? a = some r →
              ∃ changed, r = ({ p with document := e }.report changed).1)) := by
  cases a with
  | apply today m =>
    right
    refine ⟨(p.document.apply today m).2, p.document.advance_apply today m, ?_⟩
    rw [perform, report?, apply]
    cases p.document.apply today m with
    | mk result e =>
      cases result with
      | error => exact .inl ⟨rfl, rfl⟩
      | ok outcome =>
        refine .inr ⟨rfl, fun r hr => ⟨outcome.changed, ?_⟩⟩
        cases hr
        rfl
  | undo =>
    right
    have hstep := p.document.advance_perform .undo
    rw [Document.perform] at hstep
    rw [perform, report?, undo?]
    cases hu : p.document.undo? with
    | none => exact ⟨p.document, p.document.advance_refl, .inl ⟨rfl, rfl⟩⟩
    | some e =>
      rw [hu] at hstep
      refine ⟨e, hstep, .inr ⟨rfl, fun r hr => ⟨true, ?_⟩⟩⟩
      cases hr
      rfl
  | redo =>
    right
    have hstep := p.document.advance_perform .redo
    rw [Document.perform] at hstep
    rw [perform, report?, redo?]
    cases hu : p.document.redo? with
    | none => exact ⟨p.document, p.document.advance_refl, .inl ⟨rfl, rfl⟩⟩
    | some e =>
      rw [hu] at hstep
      refine ⟨e, hstep, .inr ⟨rfl, fun r hr => ⟨true, ?_⟩⟩⟩
      cases hr
      rfl
  | outputs =>
    right
    refine ⟨p.document, p.document.advance_refl, .inr ⟨rfl, fun r hr => ?_⟩⟩
    cases hr
  | clearCache => exact .inl ⟨rfl, rfl⟩
  | document a => exact .inr ⟨_, p.document.advance_perform a, .inl ⟨rfl, rfl⟩⟩

theorem IsCoherent.perform (hp : p.IsCoherent) (a : Action) : (p.perform a).IsCoherent := by
  rcases p.perform_cases a with ⟨h, -⟩ | ⟨e, he, ⟨h, -⟩ | ⟨h, -⟩⟩
  · rw [h]
    exact hp.clearCache
  · rw [h]
    exact hp.advance he
  · rw [h]
    exact (hp.advance he).outputs

theorem options_perform (p : Pipeline) (a : Action) : (p.perform a).options = p.options := by
  rcases p.perform_cases a with ⟨h, -⟩ | ⟨e, -, ⟨h, -⟩ | ⟨h, -⟩⟩ <;> rw [h] <;> rfl

theorem IsCoherent.run (hp : p.IsCoherent) (actions : List Action) :
    (p.run actions).IsCoherent := by
  induction actions generalizing p with
  | nil => exact hp
  | cons a actions ih => exact ih (hp.perform a)

theorem options_run (p : Pipeline) (actions : List Action) :
    (p.run actions).options = p.options := by
  induction actions generalizing p with
  | nil => rfl
  | cons a actions ih => exact (ih _).trans (p.options_perform a)

theorem IsCoherent.report? (hp : p.IsCoherent) {a : Action} {r : Report}
    (hr : p.report? a = some r) :
    r.version = (p.perform a).document.version ∧ r.findings = (p.perform a).document.findings ∧
      r.outputs = (p.perform a).fresh := by
  rcases p.perform_cases a with ⟨-, h⟩ | ⟨e, he, ⟨-, h⟩ | ⟨h, hreport⟩⟩
  · cases h.symm.trans hr
  · cases h.symm.trans hr
  · obtain ⟨changed, rfl⟩ := hreport r hr
    rw [h, (hp.advance he).report changed, (hp.advance he).outputs_eq]
    exact ⟨rfl, rfl, rfl⟩

end Pipeline

/-- Whatever has been done with a pipeline and with its document, the exports that it shows, and
those that an edit, undo or redo reports, are the exports of the tree and the catalog as they are
then, with the options of the pipeline; the findings that are reported are those of the linter. -/
theorem outputs_never_stale (d : Document) (hn : d.IsNew) (before : List Document.Action)
    (options : Export.Options) (actions : List Pipeline.Action) :
    let p := (Pipeline.ofDocument (d.run before) options).run actions
    p.outputs.1 = Export.all p.document.tree p.document.catalog options ∧
      ∀ a r, p.report? a = some r →
        let e := (p.perform a).document
        r.version = e.version ∧ r.findings = Lint.tree e.tree e.catalog e.lintOptions ∧
          r.outputs = Export.all e.tree e.catalog options := by
  intro p
  have hstart : (Pipeline.ofDocument (d.run before) options).IsCoherent :=
    Pipeline.isCoherent_ofDocument (Document.isLinted_run hn.isLinted before) options
  have hp : p.IsCoherent := hstart.run actions
  have hoptions : p.options = options := Pipeline.options_run _ actions
  refine ⟨?_, fun a r hr => ?_⟩
  · rw [hp.outputs_eq, ← hoptions]
    rfl
  · obtain ⟨hversion, hfindings, houtputs⟩ := hp.report? hr
    refine ⟨hversion, hfindings.trans (hp.perform a).linted, ?_⟩
    rw [houtputs, Pipeline.fresh, p.options_perform a, hoptions]

/-- An edit that is undone past the pipeline between two exports, and then made again. -/
theorem outputs_never_stale_redo :
    let day : Date := ⟨2024, 1, 1, by decide, by decide, by decide⟩
    let t : Tree := ⟨⟨"r", .and, false, none⟩, [.condition ⟨"c", "age", .isTrue, .null, none⟩]⟩
    let d := Document.create t ⟨[]⟩ {}
    let p := (Pipeline.ofDocument (d.run []) {}).run
      [.outputs, .apply day (.toggleNegation "r"), .document .undo, .outputs]
    d.IsNew ∧ p.outputs.1 = Export.all p.document.tree p.document.catalog {} ∧
      ∃ r, p.report? .redo = some r ∧
        r.outputs
          = Export.all (p.perform .redo).document.tree (p.perform .redo).document.catalog {} := by
  intro day t d p
  have hn : d.IsNew := .create t _ _
  obtain ⟨r, hr⟩ : ∃ r, p.report? .redo = some r := Option.isSome_iff_exists.1 (by decide)
  have hfresh := outputs_never_stale d hn [] {}
    [.outputs, .apply day (.toggleNegation "r"), .document .undo, .outputs]
  exact ⟨hn, hfresh.1, r, hr, (hfresh.2 .redo r hr).2.2⟩

end Criteria
