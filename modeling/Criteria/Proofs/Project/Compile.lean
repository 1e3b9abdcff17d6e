import Criteria.Proofs.Project.Prepare

namespace Criteria.Project

variable {j : CompileJob} {f : TreeFile} {files : List TreeFile} {r : Trail}

/-- Whether a path to a file that the job may write leads to this place. -/
def CompileJob.IsOutput (j : CompileJob) (files : List TreeFile) (d : Disk) (place : List String) :
    Prop :=
  ∃ outDir, j.outDir = some outDir ∧ ∃ f ∈ files, ∃ format ∈ j.targets,
    d.place? (outputPath outDir f.names format) = some place

theorem repeats_emit {d : Document} {format : Export.Format}
    (hout : ∀ outDir, j.outDir = some outDir → ∀ place,
      r.last.place? (outputPath outDir f.names format) = some place → r.outputs place) :
    ∀ path, r.Repeats (j.emit Session.host f d format).run (.ok path) := by
  intro path
  rw [CompileJob.emit]
  dsimp only
  cases h : j.outDir with
  | none =>
    apply Trail.repeats_bind_ok fun u => Trail.repeats_lift (Trail.repeats_say _ u)
    intro u s s' hrun
    cases hrun
    exact Trail.repeats_pure _ rfl
  | some outDir =>
    apply Trail.repeats_bind_ok fun u => Trail.repeats_makeFolders _
    intro u
    apply Trail.repeats_bind_ok fun u => Trail.repeats_write _ (hout outDir h)
    intro u s s' hrun
    cases hrun
    exact Trail.repeats_pure _ rfl

theorem repeats_load {path : Path} {catalog : Catalog} {options : Document.Options} {d : Document}
    (hin : r.inputs path) :
    r.Repeats (Document.load Session.host.toStorage path catalog options) (.ok d) := by
  rw [Document.load]
  apply Trail.repeats_bind
  intro text s s' hrun
  cases text with
  | error message => cases hrun
  | ok text =>
    obtain ⟨hd, rfl⟩ := Prod.mk.inj hrun
    refine ⟨Trail.repeats_read hin, ?_⟩
    dsimp only
    change Document.ofText path text catalog options = _ at hd
    rw [hd]
    exact Trail.repeats_pure _

theorem repeats_perform (hin : r.inputs f.path)
    (hout : ∀ outDir, j.outDir = some outDir → ∀ format ∈ j.targets, ∀ place,
      r.last.place? (outputPath outDir f.names format) = some place → r.outputs place) :
    ∀ written, r.Repeats (j.perform Session.host f).run (.ok written) := by
  intro written
  rw [CompileJob.perform, ExceptT.run_bind_lift]
  apply Trail.repeats_bind
  intro loaded s s' hrun
  cases loaded with
  | error e => cases hrun
  | ok d =>
    refine ⟨repeats_load hin, ?_⟩
    dsimp only
    apply Trail.repeats_bind_ok
    · apply Trail.repeats_mapM
      intro format hformat
      apply repeats_emit
      intro outDir houtDir
      exact hout outDir houtDir format (List.mem_filter.1 hformat).1
    · intro paths s s' hrun
      cases hrun
      exact Trail.repeats_pure _ rfl

theorem repeats_report (h : ∀ written, r.Repeats (j.perform Session.host f).run (.ok written)) :
    r.Repeats (j.report Session.host f) true := by
  rw [CompileJob.report]
  apply Trail.repeats_bind
  intro written s s' hrun
  cases written with
  | error message => cases (Prod.mk.inj hrun).1
  | ok written =>
    refine ⟨h written, ?_⟩
    apply Trail.repeats_bind
    intro u s s' hrun
    cases hrun
    exact ⟨Trail.repeats_forM_say _ _ _, Trail.repeats_pure _⟩

theorem repeats_reports (files : List TreeFile)
    (h : ∀ f ∈ files, r.Repeats (j.report Session.host f) true) :
    ∀ results, results.count false = 0 →
      r.Repeats (files.mapM (j.report Session.host)) results := by
  induction files with
  | nil =>
    intro results hgood s s' hrun
    cases hrun
    exact Trail.repeats_pure _ rfl
  | cons f files ih =>
    intro results hgood
    rw [List.mapM_cons]
    apply Trail.repeats_bind
    intro result s s' hrun
    obtain ⟨rfl, -⟩ := Prod.mk.inj hrun
    cases result with
    | false =>
      rw [List.count_cons_self] at hgood
      cases hgood
    | true =>
      refine ⟨h f List.mem_cons_self, ?_⟩
      apply Trail.repeats_bind
      intro rest s s' hrun
      obtain ⟨hrest, -⟩ := Prod.mk.inj hrun
      rw [← hrest] at hgood ⊢
      exact ⟨ih (fun f hf => h f (List.mem_cons_of_mem _ hf)) rest hgood, Trail.repeats_pure _⟩

theorem repeats_tell (line : String) (u : Unit) : r.Repeats (j.tell Session.host line) u := by
  rw [CompileJob.tell]
  split
  · exact Trail.repeats_say _ _
  · exact Trail.repeats_pure _

theorem repeats_reportAll (h : ∀ f ∈ files, r.Repeats (j.report Session.host f) true) :
    r.Repeats (j.reportAll Session.host files) true := by
  rw [CompileJob.reportAll]
  apply Trail.repeats_bind
  intro u s s' _
  refine ⟨repeats_tell _ u, ?_⟩
  split
  · exact Trail.repeats_bind fun u _ _ _ => ⟨Trail.repeats_say _ u, Trail.repeats_pure _⟩
  · apply Trail.repeats_bind
    intro results s s' hrun
    have hgood : results.count false = 0 := of_decide_eq_true (Prod.mk.inj hrun).1
    refine ⟨repeats_reports files h results hgood, ?_⟩
    apply Trail.repeats_bind
    intro u s s' hrun
    refine ⟨repeats_tell _ u, ?_⟩
    apply Trail.repeats_bind
    intro u s s' hrun
    refine ⟨repeats_tell _ u, ?_⟩
    rw [hgood]
    exact Trail.repeats_pure _

theorem run_compile_eq_ok {dir : Path} {q : CompileRequest} {s s' : Session} {good : Bool} :
    (compile Session.host dir q).run.run s = (.ok good, s') ↔
      ∃ j files, (q.prepare Session.host.toStorage dir).run.run s = (.ok (j, files), s) ∧
        (CompileJob.reportAll Session.host j files).run s = (good, s') := by
  rw [compile, Session.run_bind_eq_ok (onlyReads_prepare dir q)]
  constructor
  · rintro ⟨⟨j, files⟩, hfound, hrun⟩
    obtain ⟨hgood, rfl⟩ := Prod.mk.inj hrun
    exact ⟨j, files, hfound, Prod.ext (Except.ok.inj hgood) rfl⟩
  · rintro ⟨j, files, hfound, hrun⟩
    refine ⟨(j, files), hfound, ?_⟩
    change (Except.ok ((CompileJob.reportAll Session.host j files).run s).1,
      ((CompileJob.reportAll Session.host j files).run s).2) = _
    rw [hrun]

theorem exists_run_compile {dir : Path} {q : CompileRequest} {s : Session} {good : Bool} {d : Disk}
    (hfound : (q.prepare Session.host.toStorage dir).run.run s = (.ok (j, files), s))
    (hrun : Prod.map id Session.disk ((j.reportAll Session.host files).run s) = (good, d)) :
    ∃ s', (compile Session.host dir q).run.run s = (.ok good, s') ∧ s'.disk = d := by
  cases hend : (j.reportAll Session.host files).run s with
  | mk good' s' =>
    rw [hend] at hrun
    obtain ⟨rfl, rfl⟩ := Prod.mk.inj hrun
    exact ⟨s', run_compile_eq_ok.2 ⟨j, files, hfound, hend⟩, rfl⟩

/-- A run that goes well changes no file but those that its job writes. If what it has read is then
as it was, and it has written nothing where it looks for trees, the next run goes well too and leaves
all files and folders as they are. -/
theorem compiles_again (dir : Path) (q : CompileRequest) (s s' : Session)
    (h : (compile Session.host dir q).run.run s = (.ok true, s')) :
    ∃ job files, (q.prepare Session.host.toStorage dir).run.run s = (.ok (job, files), s) ∧
      (∀ place, s'.disk.text? place ≠ s.disk.text? place → job.IsOutput files s'.disk place) ∧
      ((∀ p ∈ job.inputs dir files,
          s'.disk.resolve? p = s.disk.resolve? p ∧ s'.disk.read p = s.disk.read p) →
        (∀ place, job.IsOutput files s'.disk place → ¬ q.Searches dir s.disk place) →
        ∀ t : Session, t.disk = s'.disk →
          ∃ t', (compile Session.host dir q).run.run t = (.ok true, t') ∧
            (∀ place, t'.disk.text? place = s'.disk.text? place) ∧
            t'.disk.folders = s'.disk.folders) := by
  obtain ⟨job, files, hfound, hrun⟩ := run_compile_eq_ok.1 h
  let r : Trail :=
    ⟨s.disk, s'.disk, fun p => ∃ f ∈ files, f.path = p, job.IsOutput files s'.disk⟩
  have hrepeats : r.Repeats (CompileJob.reportAll Session.host job files) true := by
    apply repeats_reportAll
    intro f hf
    apply repeats_report
    apply repeats_perform (r := r) ⟨f, hf, rfl⟩
    intro outDir houtDir format hformat place hplace
    exact ⟨outDir, houtDir, f, hf, format, hformat, hplace⟩
  obtain ⟨hgrows, hstep⟩ := hrepeats hrun
  obtain ⟨hconfined, hagain⟩ := hstep (.refl _)
  refine ⟨job, files, hfound, ?_, ?_⟩
  · intro place hplace
    exact (hconfined place).resolve_right hplace
  · intro hsame hapart t ht
    have hfound' : (q.prepare Session.host.toStorage dir).run.run t = (.ok (job, files), t) := by
      apply run_prepare_congr hfound (ht ▸ hgrows) (ht ▸ hsame)
      intro place hplace hnone
      rw [ht, ← hnone]
      exact (hconfined place).resolve_left fun hout => hapart place hout hplace
    have hinputs : r.Undisturbed := by
      rintro p ⟨f, hf, rfl⟩
      exact (hsame _ (List.mem_cons_of_mem _ (List.mem_cons_of_mem _ (List.mem_map_of_mem hf)))).2
    have hstart : r.InStep s.disk t.disk := ht ▸ Trail.inStep_start hgrows
    obtain ⟨t', hrun', hend⟩ := hagain hinputs hstart
    refine ⟨t', run_compile_eq_ok.2 ⟨job, files, hfound', hrun'⟩, ?_, hend.folders⟩
    intro place
    rcases hend.text place with heq | ⟨-, heq⟩
    · exact heq
    · exact heq

/-- A tree in a folder of its own is compiled into a folder beside that one, and then again. -/
theorem compiles_again_beside :
    let tree := "\x7b\"id\":\"r\",\"children\":[\x7b\"kind\":\"condition\",\"id\":\"c\"," ++
      "\"fieldName\":\"n\",\"operator\":\"equals\",\"value\":5\x7d]\x7d"
    let noon : Timestamp := ⟨⟨2024, 1, 1, by decide, by decide, by decide⟩, ⟨12, 0, 0, 0⟩⟩
    let before : Disk := ⟨[(["p", "trees", "a.json"], tree)], [["p"], ["p", "trees"]], ["p"]⟩
    let after : Disk :=
      ⟨before.files ++ [(["p", "dist", "a.mongo.json"], "\x7b\n  \"n\": 5\n\x7d")],
        before.folders ++ [["p", "dist"]], ["p"]⟩
    let q : CompileRequest := ⟨⟨"trees"⟩, [.mongo], false, none, none⟩
    (∃ s, (compile Session.host ⟨"/p"⟩ q).run.run (.start before noon) = (.ok true, s) ∧
        s.disk = after) ∧
      ∃ s, (compile Session.host ⟨"/p"⟩ q).run.run (.start after noon) = (.ok true, s) ∧
        ∀ place, s.disk.text? place = after.text? place := by
  intro tree noon before after q
  let job := q.job ⟨"/p"⟩ {} ⟨[]⟩
  let files : List TreeFile := [⟨⟨"/p/trees/a.json"⟩, ["a.json"]⟩]
  have hbefore : (q.prepare Session.host.toStorage ⟨"/p"⟩).run.run (.start before noon)
      = (.ok (job, files), .start before noon) := by
    refine run_prepare_eq_ok.2 ⟨{}, ⟨[]⟩, run_readConfig_of_none (by decide +kernel),
      run_readCatalog_of_none (by decide +kernel), ?_, rfl⟩
    rw [run_treeFiles_of_folder (by decide +kernel), List.mergeSort_of_pairwise (by decide +kernel)]
    exact Prod.ext (congrArg Except.ok (by decide +kernel)) rfl
  obtain ⟨s', hrun, hdisk⟩ : ∃ s', (compile Session.host ⟨"/p"⟩ q).run.run (.start before noon)
      = (.ok true, s') ∧ s'.disk = after := exists_run_compile hbefore (by decide +kernel)
  obtain ⟨job', files', hfound, -, hagain⟩ := compiles_again ⟨"/p"⟩ q _ _ hrun
  obtain ⟨rfl, rfl⟩ := Prod.mk.inj (Except.ok.inj (Prod.mk.inj (hfound.symm.trans hbefore)).1)
  rw [hdisk] at hagain
  have hsame : ∀ p ∈ job.inputs ⟨"/p"⟩ files,
      after.resolve? p = before.resolve? p ∧ after.read p = before.read p := by
    have htexts : ∀ p ∈ job.inputs ⟨"/p"⟩ files, after.resolve? p = before.resolve? p ∧
        (after.place? p).bind after.text? = (before.place? p).bind before.text? := by
      decide +kernel
    exact fun p hp => ⟨(htexts p hp).1, Disk.read_congr (htexts p hp).2⟩
  have hapart : ∀ place, job.IsOutput files after place → ¬ q.Searches ⟨"/p"⟩ before place := by
    rintro place ⟨outDir, hout, f, hf, format, hformat, hplace⟩ ⟨folder, names, hfolder, rfl, -⟩
    obtain rfl := Option.some.inj hout
    obtain rfl := List.mem_singleton.1 hf
    obtain rfl := List.mem_singleton.1 hformat
    have hdist : after.place? (outputPath (chooseOutDir ⟨"/p"⟩ {} none) ["a.json"] .mongo)
        = some ["p", "dist", "a.mongo.json"] := by decide +kernel
    have htrees : before.place? (Path.join ⟨"/p"⟩ ⟨"trees"⟩) = some ["p", "trees"] := by
      decide +kernel
    obtain rfl := Option.some.inj (hfolder.symm.trans htrees)
    have hnames := Option.some.inj (hplace.symm.trans hdist)
    exact absurd (List.cons.inj (List.cons.inj hnames).2).1 (by decide)
  obtain ⟨s, hs, htexts, -⟩ := hagain hsame hapart (.start after noon) rfl
  exact ⟨⟨s', hrun, hdisk⟩, s, hs, htexts⟩

/-- By default the files of the job are put below the folder that is searched for trees, so that the
next run takes one of them for a tree, and fails. -/
theorem outputs_taken_for_trees :
    let tree := "\x7b\"id\":\"r\",\"defaultCombinator\":\"AND\",\"children\":[" ++
      "\x7b\"kind\":\"condition\",\"id\":\"c\",\"fieldName\":\"n\",\"operator\":\"equals\"," ++
      "\"value\":5\x7d]\x7d"
    let noon : Timestamp := ⟨⟨2024, 1, 1, by decide, by decide, by decide⟩, ⟨12, 0, 0, 0⟩⟩
    let before : Disk := ⟨[(["p", "a.json"], tree)], [["p"]], ["p"]⟩
    let after : Disk :=
      ⟨before.files ++ [(["p", "dist", "a.txt"], "n equals 5"), (["p", "dist", "a.sql"], "n = 5"),
          (["p", "dist", "a.mongo.json"], "\x7b\n  \"n\": 5\n\x7d")],
        before.folders ++ [["p", "dist"]], ["p"]⟩
    let q : CompileRequest := ⟨⟨"."⟩, [], false, none, none⟩
    (∃ s, (compile Session.host ⟨"/p"⟩ q).run.run (.start before noon) = (.ok true, s) ∧
        s.disk = after) ∧
      ∃ s, (compile Session.host ⟨"/p"⟩ q).run.run (.start after noon) = (.ok false, s) ∧
        s.disk = after := by
  intro tree noon before after q
  let job := q.job ⟨"/p"⟩ {} ⟨[]⟩
  let files : List TreeFile := [⟨⟨"/p/./a.json"⟩, ["a.json"]⟩]
  let more : List TreeFile := files ++ [⟨⟨"/p/./dist/a.mongo.json"⟩, ["dist", "a.mongo.json"]⟩]
  have hbefore : (q.prepare Session.host.toStorage ⟨"/p"⟩).run.run (.start before noon)
      = (.ok (job, files), .start before noon) := by
    refine run_prepare_eq_ok.2 ⟨{}, ⟨[]⟩, run_readConfig_of_none (by decide +kernel),
      run_readCatalog_of_none (by decide +kernel), ?_, rfl⟩
    rw [run_treeFiles_of_folder (by decide +kernel), List.mergeSort_of_pairwise (by decide +kernel)]
    exact Prod.ext (congrArg Except.ok (by decide +kernel)) rfl
  have hafter : (q.prepare Session.host.toStorage ⟨"/p"⟩).run.run (.start after noon)
      = (.ok (job, more), .start after noon) := by
    refine run_prepare_eq_ok.2 ⟨{}, ⟨[]⟩, run_readConfig_of_none (by decide +kernel),
      run_readCatalog_of_none (by decide +kernel), ?_, rfl⟩
    rw [run_treeFiles_of_folder (by decide +kernel), List.mergeSort_of_pairwise (by decide +kernel)]
    exact Prod.ext (congrArg Except.ok (by decide +kernel)) rfl
  exact ⟨exists_run_compile hbefore (by decide +kernel),
    exists_run_compile hafter (by decide +kernel)⟩

end Criteria.Project
