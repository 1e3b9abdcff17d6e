import Criteria.Proofs.Export.Apart
import Criteria.Proofs.Project.Outputs
import Criteria.Proofs.Project.Written

namespace Criteria.Project

open Session
open Criteria.Path (IsName)

variable {dir outDir input : Path} {c : Config} {j : CompileJob} {f g : TreeFile}
  {files : List TreeFile} {s : Session} {d e : Disk} {place : List String}
  {format format' : Export.Format} {opened : List (TreeFile × Document)} {o o' : Output}

/-- A file with a tree as it is found below a folder. -/
structure TreeFile.IsFound (f : TreeFile) (input : Path) (d : Disk) : Prop where
  path : f.path = input.descend f.names
  tree : maybeTree f.names
  names : ∀ name ∈ f.names, IsName name
  there : (d.place? f.path).isSome

theorem isFound_of_treeFiles (hs : s.disk.Sound) (hin : s.disk.kind? input = some .folder)
    (h : (treeFiles host.toStorage dir c input).run.run s = (.ok files, s)) :
    ∀ f ∈ files, f.IsFound input s.disk := by
  rw [run_treeFiles_of_folder hin] at h
  obtain rfl := Except.ok.inj (Prod.mk.inj h).1
  obtain ⟨folder, hfolder, -⟩ := Option.bind_eq_some_iff.1 hin
  intro f hf
  obtain ⟨names, hnames, rfl⟩ := List.mem_map.1 (List.mem_filter.1 hf).1
  obtain ⟨hbelow, htree⟩ := List.mem_filter.1 (List.mem_mergeSort.1 hnames)
  obtain ⟨hall, hplace⟩ := hs.place?_of_mem_filesBelow hfolder hbelow
  exact ⟨rfl, htree, hall, Option.isSome_of_eq_some hplace⟩

theorem pairwise_treeFiles (hs : s.disk.Sound) (hin : s.disk.kind? input = some .folder)
    (h : (treeFiles host.toStorage dir c input).run.run s = (.ok files, s)) :
    files.Pairwise fun f g => ¬ walksBefore g.names f.names := by
  rw [run_treeFiles_of_folder hin] at h
  obtain rfl := Except.ok.inj (Prod.mk.inj h).1
  apply List.Pairwise.filter
  rw [List.pairwise_map]
  have hsorted := List.pairwise_mergeSort walksBefore_trans walksBefore_total
    ((s.disk.filesBelow input).filter maybeTree)
  have hdistinct : (((s.disk.filesBelow input).filter maybeTree).mergeSort walksBefore).Nodup :=
    (List.mergeSort_perm _ _).nodup_iff.2 ((hs.nodup_filesBelow input).filter _)
  exact hsorted.imp₂ (fun names names' hbefore hne hback =>
    hne (walksBefore_antisymm hbefore hback)) hdistinct

/-- Whether the JSON of one of the files is put where this output is. -/
def Output.IsCovered (j : CompileJob) (files : List TreeFile) (o : Output) : Prop :=
  o.format = .mongo ∧ .json ∈ j.targets ∧ ∃ g ∈ files, g.Covers o.file

theorem exists_source (h : j.Compiles outDir d opened e) {x : TreeFile × Document}
    (hx : x ∈ opened) (hfound : x.1.IsFound input d) :
    ∃ text, Document.ofText x.1.path text j.catalog j.config.documentOptions = .ok x.2 ∧
      (d.read x.1.path = .ok text ∨ ∃ o ∈ j.outputs opened,
        e.place? (o.path outDir) = e.place? x.1.path ∧ o.text j = text) := by
  obtain ⟨before, m, hbefore, hwrote, hgrows, text, hread, hopen⟩ := h.exists_opens hx
  refine ⟨text, hopen, ?_⟩
  obtain ⟨place, hplace, htext⟩ := Disk.read_eq_ok.1 hread
  rcases hwrote.text? place with hkept | ⟨p, t, hw, hsame, hwritten⟩
  · obtain ⟨q, hq⟩ := Option.isSome_iff_exists.1 hfound.there
    obtain rfl := Option.some.inj ((hwrote.grows.place? hq).symm.trans hplace)
    exact .inl (Disk.read_eq_ok.2 ⟨q, hq, hkept.symm.trans htext⟩)
  · obtain ⟨o, ho, hentry⟩ := List.mem_map.1 hw
    obtain ⟨rfl, rfl⟩ := Prod.mk.inj hentry
    refine .inr ⟨o, hbefore ho, ?_, Option.some.inj (hwritten.symm.trans htext)⟩
    exact (hgrows.place? hsame).trans (hgrows.place? hplace).symm

theorem pairwise_outputs (j : CompileJob)
    (h : opened.Pairwise fun x y => ¬ walksBefore y.1.names x.1.names) :
    (j.outputs opened).Pairwise fun o o' => (o.file, o.document) = (o'.file, o'.document) ∨
      ¬ walksBefore o'.file.names o.file.names := by
  rw [CompileJob.outputs, List.pairwise_flatMap]
  refine ⟨fun x _ => ?_, h.imp fun {x y} hxy o ho o' ho' => ?_⟩
  · exact List.pairwise_map.2 (List.pairwise_of_forall fun a b => .inl rfl)
  · obtain ⟨a, -, rfl⟩ := List.mem_map.1 ho
    obtain ⟨b, -, rfl⟩ := List.mem_map.1 ho'
    exact .inr hxy

theorem TreeFile.IsFound.ne_up (hf : f.IsFound input d) (he : e.Sound)
    (hplace : e.place? (outputPath outDir f.names format) = some place)
    (hno : e.isFolder place = false) : f.names.getLast? ≠ some "..json" := by
  intro hup
  rw [outputPath_eq, Disk.place?_descend e outDir (outputNames_ne_nil _ _)
    (isStep_outputNames hf.tree hf.names format), outputNames_up hf.tree hup,
    ← List.append_assoc] at hplace
  rw [he.isFolder_of_up hplace] at hno
  cases hno

theorem outputNames_eq_of_place? (hf : f.IsFound input d) (hg : g.IsFound input d) (he : e.Sound)
    (hno : e.isFolder place = false)
    (hplace : e.place? (outputPath outDir f.names format) = some place)
    (hplace' : e.place? (outputPath outDir g.names format') = some place) :
    outputNames f.names format = outputNames g.names format' := by
  have hup := hf.ne_up he hplace hno
  have hup' := hg.ne_up he hplace' hno
  rw [outputPath_eq] at hplace hplace'
  exact Disk.names_eq_of_place? (isName_outputNames hf.tree hf.names hup format)
    (isName_outputNames hg.tree hg.names hup' format') (outputNames_ne_nil _ _)
    (outputNames_ne_nil _ _) hplace hplace'

/-- An output that is put later where another one is says the same, unless it covers that one. -/
theorem text_eq_of_later (hf : o.file.IsFound input d) (hf' : o'.file.IsFound input d)
    (hup : o.file.names.getLast? ≠ some "..json")
    (hnames : outputNames o.file.names o.format = outputNames o'.file.names o'.format)
    (hlater : (o.file, o.document) = (o'.file, o'.document) ∨
      ¬ walksBefore o'.file.names o.file.names)
    (hcovers : o.format = .mongo → o'.format = .json → ¬ o'.file.Covers o.file) :
    o'.text j = o.text j := by
  rcases (outputNames_eq_iff hf.tree hf'.tree).1 hnames with
    ⟨hsame, hformat⟩ | ⟨hmongo, hjson, hcovered⟩ | ⟨hjson, hmongo, hcovered⟩
  · rcases hlater with hopened | hstrict
    · rw [Output.text, Output.text, (Prod.mk.inj hopened).2, hformat.resolve_right hup]
    · rw [hsame] at hstrict
      exact absurd (walksBefore_refl _) hstrict
  · exact absurd hcovered (hcovers hmongo hjson)
  · -- the filter of the later file would be covered by the earlier one
    have hback := not_walksBefore_of_covers hf'.tree hf.tree hcovered
    rcases hlater with hopened | hstrict
    · rw [(Prod.mk.inj hopened).1] at hback
      exact absurd (walksBefore_refl _) hback
    · have htotal := walksBefore_total o.file.names o'.file.names
      rw [Bool.or_eq_true] at htotal
      exact absurd htotal (not_or.2 ⟨hback, hstrict⟩)

theorem read_of_not_isCovered (h : j.Compiles outDir d opened e) (hd : d.Sound)
    (hfound : ∀ x ∈ opened, x.1.IsFound input d)
    (hordered : opened.Pairwise fun x y => ¬ walksBefore y.1.names x.1.names)
    (ho : o ∈ j.outputs opened) (hcovered : ¬ o.IsCovered j (opened.map Prod.fst)) :
    e.read (o.path outDir) = .ok (o.text j) := by
  have hwrote := h.wrote
  have hlater := pairwise_outputs j hordered
  obtain ⟨place, hplace, hno⟩ : ∃ place, e.place? (o.path outDir) = some place ∧
    e.isFolder place = false := hwrote.exists_place (List.mem_map_of_mem ho)
  obtain ⟨before, after, houtputs⟩ := List.append_of_mem ho
  rw [houtputs] at hlater
  have hafter := (List.pairwise_cons.1 (List.pairwise_append.1 hlater).2.1).1
  have hws : (j.outputs opened).map (Output.entry j outDir) = before.map (Output.entry j outDir) ++
      (o.path outDir, o.text j) :: after.map (Output.entry j outDir) := by
    rw [houtputs, List.map_append, List.map_cons, Output.entry]
  have hf : o.file.IsFound input d := hfound _ (mem_outputs.1 ho).1
  have hup : o.file.names.getLast? ≠ some "..json" := hf.ne_up (hwrote.sound hd) hplace hno
  apply hwrote.read hws
  intro p t hw hsame
  obtain ⟨o', ho', hentry⟩ := List.mem_map.1 hw
  obtain ⟨rfl, rfl⟩ := Prod.mk.inj hentry
  have hmem : o' ∈ j.outputs opened := by
    rw [houtputs]
    exact List.mem_append_right _ (List.mem_cons_of_mem _ ho')
  obtain ⟨hopened', hformat', -⟩ := mem_outputs.1 hmem
  have hf' : o'.file.IsFound input d := hfound _ hopened'
  have hnames : outputNames o.file.names o.format = outputNames o'.file.names o'.format :=
    outputNames_eq_of_place? hf hf' (hwrote.sound hd) hno hplace (hsame.trans hplace)
  apply text_eq_of_later hf hf' hup hnames (hafter o' ho')
  intro hmongo hjson hcovers
  exact hcovered ⟨hmongo, hjson ▸ hformat', o'.file, List.mem_map_of_mem hopened', hcovers⟩

theorem read_iff_not_isCovered (h : j.Compiles outDir d opened e) (hd : d.Sound)
    (hfound : ∀ x ∈ opened, x.1.IsFound input d)
    (hordered : opened.Pairwise fun x y => ¬ walksBefore y.1.names x.1.names)
    (ho : o ∈ j.outputs opened) :
    e.read (o.path outDir) = .ok (o.text j) ↔ ¬ o.IsCovered j (opened.map Prod.fst) := by
  constructor
  · rintro hread ⟨hmongo, hjson, g, hg, hcovers⟩
    obtain ⟨x, hx, rfl⟩ := List.mem_map.1 hg
    let o' : Output := ⟨x.1, x.2, .json⟩
    have ho' : o' ∈ j.outputs opened := mem_outputs.2 ⟨hx, hjson, rfl⟩
    have hpath : o.path outDir = o'.path outDir := by
      have hf := hfound _ (mem_outputs.1 ho).1
      rw [Output.path, Output.path, outputPath_eq, outputPath_eq,
        (outputNames_eq_iff hf.tree (hfound x hx).tree).2 (.inr (.inl ⟨hmongo, rfl, hcovers⟩))]
    have hread' := read_of_not_isCovered h hd hfound hordered ho' fun hcovered => nomatch hcovered.1
    rw [hpath] at hread
    have htext : o.text j = o'.text j := Except.ok.inj (hread.symm.trans hread')
    rw [Output.text, hmongo] at htext
    exact Export.filter_ne_treeJson _ _ _ _ htext
  · exact read_of_not_isCovered h hd hfound hordered ho

theorem outputPath_eq_iff (outDir : Path) (hf : f.IsFound input d) (hg : g.IsFound input d) :
    outputPath outDir f.names format = outputPath outDir g.names format' ↔
      f = g ∧ (format = format' ∨ f.names.getLast? = some "..json") ∨
        format = .mongo ∧ format' = .json ∧ g.Covers f ∨
        format = .json ∧ format' = .mongo ∧ f.Covers g := by
  have hfile : f.names = g.names ↔ f = g := by
    refine ⟨fun hnames => ?_, congrArg _⟩
    have hpath : f.path = g.path := by rw [hf.path, hg.path, hnames]
    cases f
    cases g
    exact congrArg₂ TreeFile.mk hpath hnames
  rw [outputPath_eq, outputPath_eq, Path.descend_inj outDir (isStep_outputNames hf.tree hf.names _)
    (isStep_outputNames hg.tree hg.names _), outputNames_eq_iff hf.tree hg.tree, hfile]
  exact Iff.rfl

/-- Among the files found below a folder, two outputs have one path just if they are of one file and
one format, or one is the filter of a file and the other the JSON of the file that covers it; a file
that is named by two dots and the ending alone has no outputs in files. After a run that went well,
each output has in its file just what was exported, unless it is such a filter and JSON is a target
too. What was exported is the tree that the file held before the run, unless an output was put in
place of the file before it was read. -/
theorem output_kept_iff (dir : Path) (q : CompileRequest) (s : Session) (job : CompileJob)
    (files : List TreeFile) (hs : s.disk.Sound)
    (hin : s.disk.kind? (dir.join q.input) = some .folder) (hout : q.toOutput = false)
    (h : (q.prepare host.toStorage dir).run.run s = (.ok (job, files), s)) :
    ∃ outDir, job.outDir = some outDir ∧
      (∀ f ∈ files, ∀ g ∈ files, ∀ a b : Export.Format,
        outputPath outDir f.names a = outputPath outDir g.names b ↔
          f = g ∧ (a = b ∨ f.names.getLast? = some "..json") ∨
            a = .mongo ∧ b = .json ∧ g.Covers f ∨ a = .json ∧ b = .mongo ∧ f.Covers g) ∧
      ∀ s', (compile host dir q).run.run s = (.ok true, s') →
        ∃ opened, opened.map Prod.fst = files ∧
          (∀ x ∈ opened, ∃ text,
            Document.ofText x.1.path text job.catalog job.config.documentOptions = .ok x.2 ∧
            (s.disk.read x.1.path = .ok text ∨ ∃ o ∈ job.outputs opened,
              s'.disk.place? (o.path outDir) = s'.disk.place? x.1.path ∧ o.text job = text)) ∧
          ∀ o ∈ job.outputs opened,
            s'.disk.read (o.path outDir) = .ok (o.text job) ↔ ¬ o.IsCovered job files := by
  obtain ⟨c, catalog, -, -, hfiles, rfl⟩ := run_prepare_eq_ok.1 h
  have hfound := isFound_of_treeFiles hs hin hfiles
  have hordered := pairwise_treeFiles hs hin hfiles
  have houtDir : (q.job dir (c.withCatalog dir q.catalog) catalog).outDir
      = some (chooseOutDir dir (c.withCatalog dir q.catalog) q.outDir) := by
    rw [CompileRequest.job, hout]
    rfl
  refine ⟨_, houtDir, ?_, ?_⟩
  · intro f hf g hg a b
    exact outputPath_eq_iff _ (hfound f hf) (hfound g hg)
  · intro s' hrun
    obtain ⟨job', files', hfound', hrun⟩ := run_compile_eq_ok.1 hrun
    obtain ⟨rfl, rfl⟩ := Prod.mk.inj (Except.ok.inj (Prod.mk.inj (hfound'.symm.trans h)).1)
    obtain ⟨opened, rfl, hcompiles⟩ := compiles_of_reportAll houtDir hrun
    have hfound (x) (hx : x ∈ opened) := hfound x.1 (List.mem_map_of_mem hx)
    rw [List.pairwise_map] at hordered
    refine ⟨opened, rfl, ?_, ?_⟩
    · exact fun x hx => exists_source hcompiles hx (hfound x hx)
    · exact fun o ho => read_iff_not_isCovered hcompiles hs hfound hordered ho

/-- Two trees with filters, one of which covers the filter of the other. -/
theorem output_kept_iff_covered :
    let tree := "\x7b\"id\":\"r\",\"children\":[\x7b\"kind\":\"condition\",\"id\":\"c\"," ++
      "\"fieldName\":\"n\",\"operator\":\"equals\",\"value\":5\x7d]\x7d"
    let noon : Timestamp := ⟨⟨2024, 1, 1, by decide, by decide, by decide⟩, ⟨12, 0, 0, 0⟩⟩
    let before : Disk :=
      ⟨[(["p", "a.json"], tree), (["p", "a.mongo.json"], tree)], [["p"]], ["p"]⟩
    let q : CompileRequest := ⟨⟨"."⟩, [.mongo, .json], false, none, none⟩
    let job := q.job ⟨"/p"⟩ {} ⟨[]⟩
    let a : TreeFile := ⟨⟨"/p/./a.json"⟩, ["a.json"]⟩
    let b : TreeFile := ⟨⟨"/p/./a.mongo.json"⟩, ["a.mongo.json"]⟩
    before.Sound ∧ before.kind? (Path.join ⟨"/p"⟩ q.input) = some .folder ∧ q.toOutput = false ∧
      (q.prepare host.toStorage ⟨"/p"⟩).run.run (.start before noon)
        = (.ok (job, [a, b]), .start before noon) ∧
      b.Covers a ∧
      ∃ s opened, (compile host ⟨"/p"⟩ q).run.run (.start before noon) = (.ok true, s) ∧
        opened.map Prod.fst = [a, b] ∧
        ∀ o ∈ job.outputs opened,
          s.disk.read (o.path ⟨"/p/dist"⟩) = .ok (o.text job) ↔ ¬ o.IsCovered job [a, b] := by
  intro tree noon before q job a b
  have hsound : before.Sound := by decide +kernel
  have hfolder : before.kind? (Path.join ⟨"/p"⟩ q.input) = some .folder := by decide +kernel
  have hbefore : (q.prepare host.toStorage ⟨"/p"⟩).run.run (.start before noon)
      = (.ok (job, [a, b]), .start before noon) := by
    refine run_prepare_eq_ok.2 ⟨{}, ⟨[]⟩, run_readConfig_of_none (by decide +kernel),
      run_readCatalog_of_none (by decide +kernel), ?_, rfl⟩
    rw [run_treeFiles_of_folder (by decide +kernel), List.mergeSort_of_pairwise (by decide +kernel)]
    exact Prod.ext (congrArg Except.ok (by decide +kernel)) rfl
  have hgood : ((job.reportAll host [a, b]).run (.start before noon)).1 = true := by decide +kernel
  obtain ⟨s, hrun⟩ : ∃ s, (compile host ⟨"/p"⟩ q).run.run (.start before noon) = (.ok true, s) :=
    ⟨_, run_compile_eq_ok.2 ⟨job, [a, b], hbefore, Prod.ext hgood rfl⟩⟩
  obtain ⟨outDir, hout, -, hkept⟩ :=
    output_kept_iff ⟨"/p"⟩ q (.start before noon) job [a, b] hsound hfolder rfl hbefore
  have hdist : job.outDir = some ⟨"/p/dist"⟩ := by decide +kernel
  obtain rfl := Option.some.inj (hdist.symm.trans hout)
  obtain ⟨opened, hfiles, -, hread⟩ := hkept s hrun
  exact ⟨hsound, hfolder, rfl, hbefore, by decide +kernel, s, opened, hrun, hfiles, hread⟩

/-- A run that goes well tells that the filter of a.json and the JSON of a.mongo.json have been put
in one file, which holds the latter. With the first target alone it holds the filter. -/
theorem filter_overwritten_by_tree :
    let tree := "\x7b\"id\":\"r\",\"defaultCombinator\":\"AND\",\"children\":[" ++
      "\x7b\"kind\":\"condition\",\"id\":\"c\",\"fieldName\":\"n\",\"operator\":\"equals\"," ++
      "\"value\":5\x7d]\x7d"
    let other := "\x7b\"id\":\"s\",\"defaultCombinator\":\"AND\",\"children\":[]\x7d"
    let filter := "\x7b\n  \"n\": 5\n\x7d"
    let treeJson := "\x7b\n  \"children\": [\n    \x7b\n      \"fieldName\": \"n\",\n" ++
      "      \"id\": \"c\",\n      \"kind\": \"condition\",\n      \"operator\": \"equals\",\n" ++
      "      \"value\": 5\n    \x7d\n  ],\n  \"defaultCombinator\": \"AND\",\n  \"id\": \"r\"\n\x7d"
    let otherJson :=
      "\x7b\n  \"children\": [],\n  \"defaultCombinator\": \"AND\",\n  \"id\": \"s\"\n\x7d"
    let noon : Timestamp := ⟨⟨2024, 1, 1, by decide, by decide, by decide⟩, ⟨12, 0, 0, 0⟩⟩
    let before : Disk :=
      ⟨[(["p", "a.json"], tree), (["p", "a.mongo.json"], other)], [["p"]], ["p"]⟩
    let q (targets : List Export.Format) : CompileRequest := ⟨⟨"."⟩, targets, false, none, none⟩
    (∃ s, (compile host ⟨"/p"⟩ (q [.mongo])).run.run (.start before noon) = (.ok true, s) ∧
        s.disk.files = before.files ++ [(["p", "dist", "a.mongo.json"], filter)]) ∧
      ∃ s, (compile host ⟨"/p"⟩ (q [.mongo, .json])).run.run (.start before noon) = (.ok true, s) ∧
        s.output = ["🔨 Compiling rule trees...", "  ✓ a.json → /p/dist/a.mongo.json",
          "  ✓ a.json → /p/dist/a.json", "  ✓ a.mongo.json → /p/dist/a.mongo.json", "",
          "✅ Compiled 2 files successfully"] ∧
        s.disk.files = before.files ++ [(["p", "dist", "a.mongo.json"], otherJson),
          (["p", "dist", "a.json"], treeJson)] := by
  intro tree other filter treeJson otherJson noon before q
  let files : List TreeFile :=
    [⟨⟨"/p/./a.json"⟩, ["a.json"]⟩, ⟨⟨"/p/./a.mongo.json"⟩, ["a.mongo.json"]⟩]
  have hconfig : (readConfig host.toStorage ⟨"/p"⟩).run.run (.start before noon)
      = (.ok {}, .start before noon) := run_readConfig_of_none (by decide +kernel)
  have hcatalog : (readCatalog host.toStorage ⟨"/p"⟩ {}).run.run (.start before noon)
      = (.ok ⟨[]⟩, .start before noon) := run_readCatalog_of_none (by decide +kernel)
  have hfiles : (treeFiles host.toStorage ⟨"/p"⟩ {} (Path.join ⟨"/p"⟩ ⟨"."⟩)).run.run
      (.start before noon) = (.ok files, .start before noon) := by
    rw [run_treeFiles_of_folder (by decide +kernel), List.mergeSort_of_pairwise (by decide +kernel)]
    exact Prod.ext (congrArg Except.ok (by decide +kernel)) rfl
  have hbefore (targets : List Export.Format) :
      ((q targets).prepare host.toStorage ⟨"/p"⟩).run.run (.start before noon)
        = (.ok ((q targets).job ⟨"/p"⟩ {} ⟨[]⟩, files), .start before noon) :=
    run_prepare_eq_ok.2 ⟨{}, ⟨[]⟩, hconfig, hcatalog, hfiles, rfl⟩
  let after (written : List (List String × String)) : Disk :=
    ⟨before.files ++ written, [["p"], ["p", "dist"]], ["p"]⟩
  constructor
  · let s : Session :=
      ⟨after [(["p", "dist", "a.mongo.json"], filter)], noon,
        ["🔨 Compiling rule trees...", "  ✓ a.json → /p/dist/a.mongo.json", "",
          "✅ Compiled 2 files successfully"], []⟩
    have hrun : Id.run ((((q [.mongo]).job ⟨"/p"⟩ {} ⟨[]⟩).reportAll host files).run
        (.start before noon)) = (true, s) := by decide +kernel
    exact ⟨s, run_compile_eq_ok.2 ⟨_, files, hbefore [.mongo], hrun⟩, rfl⟩
  · let s : Session :=
      ⟨after [(["p", "dist", "a.mongo.json"], otherJson), (["p", "dist", "a.json"], treeJson)],
        noon, ["🔨 Compiling rule trees...", "  ✓ a.json → /p/dist/a.mongo.json",
          "  ✓ a.json → /p/dist/a.json", "  ✓ a.mongo.json → /p/dist/a.mongo.json", "",
          "✅ Compiled 2 files successfully"], []⟩
    have hrun : Id.run ((((q [.mongo, .json]).job ⟨"/p"⟩ {} ⟨[]⟩).reportAll host files).run
        (.start before noon)) = (true, s) := by decide +kernel
    exact ⟨s, run_compile_eq_ok.2 ⟨_, files, hbefore [.mongo, .json], hrun⟩, rfl, rfl⟩

end Criteria.Project
