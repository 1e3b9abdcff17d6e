import Criteria.Proofs.Project.Compile
import Criteria.Proofs.Storage.Writes

namespace Criteria.Project

open Session
open Disk (Wrote)

variable {outDir : Path} {j : CompileJob} {f : TreeFile} {files : List TreeFile}
  {s s' : Session} {d e : Disk}

/-- One export of one tree. -/
structure Output where
  file : TreeFile
  document : Document
  format : Export.Format

namespace Output

def path (outDir : Path) (o : Output) : Path := outputPath outDir o.file.names o.format

def text (j : CompileJob) (o : Output) : String :=
  (o.document.exportTo o.format j.config.exportOptions).pretty

def entry (j : CompileJob) (outDir : Path) (o : Output) : Path × String :=
  (o.path outDir, o.text j)

end Output

namespace CompileJob

/-- The outputs for one file, in the order in which they are put. -/
def outputsOf (j : CompileJob) (f : TreeFile) (document : Document) : List Output :=
  (j.targets.filter (isCompiled document.tree)).map fun format => ⟨f, document, format⟩

def outputs (j : CompileJob) (opened : List (TreeFile × Document)) : List Output :=
  opened.flatMap fun x => j.outputsOf x.1 x.2

/-- Whether the document is opened from what the file holds. -/
def Opens (j : CompileJob) (d : Disk) (f : TreeFile) (document : Document) : Prop :=
  ∃ text, d.read f.path = .ok text ∧
    Document.ofText f.path text j.catalog j.config.documentOptions = .ok document

/-- Leads from one disk to another by compiling files, each with the document that is opened from
what the file holds at that time. -/
inductive Compiles (j : CompileJob) (outDir : Path) :
    Disk → List (TreeFile × Document) → Disk → Prop where
  | done (d : Disk) : Compiles j outDir d [] d
  | next {d m e : Disk} {f : TreeFile} {document : Document} {opened : List (TreeFile × Document)}
    (hopens : j.Opens d f document)
    (hwrote : Wrote d ((j.outputsOf f document).map (Output.entry j outDir)) m)
    (h : Compiles j outDir m opened e) : Compiles j outDir d ((f, document) :: opened) e

end CompileJob

theorem mem_outputs {opened : List (TreeFile × Document)} {o : Output} :
    o ∈ j.outputs opened ↔ (o.file, o.document) ∈ opened ∧ o.format ∈ j.targets ∧
      isCompiled o.document.tree o.format := by
  rw [CompileJob.outputs, List.mem_flatMap]
  constructor
  · rintro ⟨x, hx, ho⟩
    obtain ⟨format, hformat, rfl⟩ := List.mem_map.1 ho
    exact ⟨hx, List.mem_filter.1 hformat⟩
  · rintro ⟨hx, ho⟩
    exact ⟨_, hx, List.mem_map.2 ⟨o.format, List.mem_filter.2 ho, rfl⟩⟩

theorem writes_emit (hout : j.outDir = some outDir) (f : TreeFile) (document : Document)
    (format : Export.Format) (path : Option Path) :
    Writes (j.emit host f document format).run (.ok path)
      [Output.entry j outDir ⟨f, document, format⟩] := by
  rw [CompileJob.emit, hout]
  change Writes _ _ ([] ++ ([Output.entry j outDir ⟨f, document, format⟩] ++ []))
  apply writes_bind_ok
  · exact fun u => writes_makeFolders _
  · intro u
    apply writes_bind_ok
    · exact fun u => writes_write _ _
    · intro u s s' hrun
      cases hrun
      exact .done _

theorem opens_of_load {document : Document}
    (h : (Document.load host.toStorage f.path j.catalog j.config.documentOptions).run s
      = (.ok document, s')) : s' = s ∧ j.Opens s.disk f document := by
  rw [Document.load] at h
  obtain ⟨found, m, hread, h⟩ := run_bind_iff.1 h
  obtain ⟨hfound, rfl⟩ := Prod.mk.inj hread
  cases found with
  | error message => cases h
  | ok text =>
    obtain ⟨hopen, rfl⟩ := Prod.mk.inj h
    exact ⟨rfl, text, hfound, hopen⟩

theorem wrote_of_perform (hout : j.outDir = some outDir) {written : List Path}
    (h : (j.perform host f).run.run s = (.ok written, s')) :
    ∃ document, j.Opens s.disk f document ∧
      Wrote s.disk ((j.outputsOf f document).map (Output.entry j outDir)) s'.disk := by
  rw [CompileJob.perform, ExceptT.run_bind_lift] at h
  obtain ⟨loaded, m, hload, hrest⟩ := run_bind_iff.1 h
  cases loaded with
  | error e => cases hrest
  | ok document =>
    obtain ⟨rfl, hopens⟩ := opens_of_load hload
    obtain ⟨paths, m', hpaths, hrest⟩ := run_bind_ok_iff.1 hrest
    cases hrest
    refine ⟨document, hopens, ?_⟩
    rw [CompileJob.outputsOf, List.map_map]
    exact writes_mapM (writes_emit hout f document) _ paths hpaths

theorem wrote_of_report (hout : j.outDir = some outDir)
    (h : (j.report host f).run s = (true, s')) :
    ∃ document, j.Opens s.disk f document ∧
      Wrote s.disk ((j.outputsOf f document).map (Output.entry j outDir)) s'.disk := by
  rw [CompileJob.report] at h
  obtain ⟨written, m, hperform, h⟩ := run_bind_iff.1 h
  cases written with
  | error message => cases (Prod.mk.inj h).1
  | ok written =>
    obtain ⟨document, hopens, hwrote⟩ := wrote_of_perform hout hperform
    obtain ⟨u, m', hsay, h⟩ := run_bind_iff.1 h
    cases h
    refine ⟨document, hopens, ?_⟩
    rw [← List.append_nil (List.map _ _)]
    exact hwrote.trans (writes_forM_say written _ u hsay)

theorem compiles_of_reports (hout : j.outDir = some outDir) {results : List Bool}
    (h : (files.mapM (j.report host)).run s = (results, s')) (hgood : results.count false = 0) :
    ∃ opened, opened.map Prod.fst = files ∧ j.Compiles outDir s.disk opened s'.disk := by
  induction files generalizing s results with
  | nil =>
    cases h
    exact ⟨[], rfl, .done _⟩
  | cons f files ih =>
    rw [List.mapM_cons] at h
    obtain ⟨result, m, hreport, h⟩ := run_bind_iff.1 h
    obtain ⟨rest, m', hrest, h⟩ := run_bind_iff.1 h
    cases h
    cases result with
    | false =>
      rw [List.count_cons_self] at hgood
      cases hgood
    | true =>
      obtain ⟨document, hopens, hwrote⟩ := wrote_of_report hout hreport
      obtain ⟨opened, hfiles, hcompiles⟩ := ih hrest hgood
      exact ⟨(f, document) :: opened, congrArg (f :: ·) hfiles, .next hopens hwrote hcompiles⟩

theorem compiles_of_reportAll (hout : j.outDir = some outDir)
    (h : (j.reportAll host files).run s = (true, s')) :
    ∃ opened, opened.map Prod.fst = files ∧ j.Compiles outDir s.disk opened s'.disk := by
  have htell (line : String) : j.tell host line = host.say line := by
    rw [CompileJob.tell, hout]
    rfl
  rw [CompileJob.reportAll, htell] at h
  obtain ⟨u, m, hstart, h⟩ := run_bind_iff.1 h
  cases hstart
  split at h
  · next hempty =>
    obtain rfl := List.isEmpty_iff.1 hempty
    cases h
    exact ⟨[], rfl, .done _⟩
  · obtain ⟨results, m, hresults, h⟩ := run_bind_iff.1 h
    rw [htell, htell] at h
    obtain ⟨hgood, rfl⟩ := Prod.mk.inj h
    have hcompiles := compiles_of_reports hout hresults (of_decide_eq_true hgood)
    exact hcompiles

namespace CompileJob.Compiles

variable {opened : List (TreeFile × Document)}

theorem wrote (h : j.Compiles outDir d opened e) :
    Wrote d ((j.outputs opened).map (Output.entry j outDir)) e := by
  induction h with
  | done d => exact .done d
  | next _ hwrote _ ih =>
    rw [outputs, List.flatMap_cons, List.map_append]
    exact hwrote.trans ih

/-- A document is opened from what its file holds once the outputs before it have been put. -/
theorem exists_opens (h : j.Compiles outDir d opened e) {x : TreeFile × Document}
    (hx : x ∈ opened) :
    ∃ before m, before ⊆ j.outputs opened ∧ Wrote d (before.map (Output.entry j outDir)) m ∧
      m.Grows e ∧ j.Opens m x.1 x.2 := by
  induction h with
  | done d => cases hx
  | @next d m e f document opened hopens hwrote h ih =>
    rcases List.mem_cons.1 hx with rfl | hx
    · exact ⟨[], d, List.nil_subset _, .done d, hwrote.grows.trans h.wrote.grows, hopens⟩
    · obtain ⟨before, m', hbefore, hwrote', hgrows, hopens'⟩ := ih hx
      refine ⟨j.outputsOf f document ++ before, m', ?_, ?_, hgrows, hopens'⟩
      · rw [outputs, List.flatMap_cons]
        exact List.append_subset.2 ⟨List.subset_append_left _ _,
          List.Subset.trans hbefore (List.subset_append_right _ _)⟩
      · rw [List.map_append]
        exact hwrote.trans hwrote'

end CompileJob.Compiles

end Criteria.Project
