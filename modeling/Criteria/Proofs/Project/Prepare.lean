import Criteria.Project.Compile
import Criteria.Proofs.Storage.Session

namespace Criteria.Project

/-- The paths that a run reads. -/
def CompileJob.inputs (dir : Path) (j : CompileJob) (files : List TreeFile) : List Path :=
  dir.join ⟨Config.fileName⟩ :: j.config.catalogPath dir :: files.map (·.path)

/-- Whether a file in this place is taken for a tree. -/
def CompileRequest.Searches (dir : Path) (q : CompileRequest) (d : Disk) (place : List String) :
    Prop :=
  ∃ folder names,
    d.place? (dir.join q.input) = some folder ∧ place = folder ++ names ∧ maybeTree names

open Session

variable {dir : Path} {c : Config} {catalog : Catalog} {input : Path} {q : CompileRequest}
  {j : CompileJob} {files : List TreeFile} {s t : Session}

theorem onlyReads_readConfig (dir : Path) : OnlyReads (readConfig host.toStorage dir).run := by
  rw [readConfig]
  apply onlyReads_bind_ok fun s => rfl
  intro kind
  split
  · exact fun s => rfl
  · apply onlyReads_bind_ok fun s => rfl
    intro text
    split <;> exact fun s => rfl

theorem onlyReads_readCatalog (dir : Path) (c : Config) :
    OnlyReads (readCatalog host.toStorage dir c).run := by
  rw [readCatalog]
  apply onlyReads_bind_ok fun s => rfl
  intro kind
  split
  · exact fun s => rfl
  · apply onlyReads_bind_ok fun s => rfl
    intro text
    split
    · exact fun s => rfl
    · split <;> exact fun s => rfl

theorem onlyReads_treeFiles (dir : Path) (c : Config) (input : Path) :
    OnlyReads (treeFiles host.toStorage dir c input).run := by
  rw [treeFiles]
  apply onlyReads_bind_ok fun s => rfl
  intro kind
  split
  · exact fun s => rfl
  · exact fun s => rfl
  · apply onlyReads_bind_ok fun s => rfl
    intro catalog
    apply onlyReads_bind_ok fun s => rfl
    intro below
    apply onlyReads_filterM
    exact fun f s => rfl

theorem onlyReads_prepare (dir : Path) (q : CompileRequest) :
    OnlyReads (q.prepare host.toStorage dir).run := by
  apply onlyReads_bind_ok (onlyReads_readConfig dir)
  intro config
  apply onlyReads_bind_ok (onlyReads_readCatalog dir _)
  intro catalog
  apply onlyReads_bind_ok (onlyReads_treeFiles dir _ _)
  exact fun files s => rfl

theorem run_readConfig_of_none (h : s.disk.kind? (dir.join ⟨Config.fileName⟩) = none) :
    (readConfig host.toStorage dir).run.run s = (.ok {}, s) := by
  refine (run_bind_eq_ok fun s => rfl).2 ⟨none, ?_, rfl⟩
  rw [← h]
  rfl

theorem run_readCatalog_of_none (h : s.disk.kind? (c.catalogPath dir) = none) :
    (readCatalog host.toStorage dir c).run.run s = (.ok ⟨[]⟩, s) := by
  refine (run_bind_eq_ok fun s => rfl).2 ⟨none, ?_, rfl⟩
  rw [← h]
  rfl

theorem run_readConfig_congr (h : (readConfig host.toStorage dir).run.run s = (.ok c, s))
    (hkind : t.disk.kind? (dir.join ⟨Config.fileName⟩) = s.disk.kind? (dir.join ⟨Config.fileName⟩))
    (hread : t.disk.read (dir.join ⟨Config.fileName⟩) = s.disk.read (dir.join ⟨Config.fileName⟩)) :
    (readConfig host.toStorage dir).run.run t = (.ok c, t) := by
  rw [readConfig] at h ⊢
  obtain ⟨kind, hk, h⟩ := (run_bind_eq_ok fun s => rfl).1 h
  obtain rfl : s.disk.kind? _ = kind := Except.ok.inj (Prod.mk.inj hk).1
  refine (run_bind_eq_ok fun s => rfl).2 ⟨_, Prod.ext (congrArg Except.ok hkind) rfl, ?_⟩
  split at h
  · next hnone =>
    rw [if_pos hnone]
    cases h
    rfl
  · next hsome =>
    rw [if_neg hsome]
    obtain ⟨text, htext, h⟩ := (run_bind_eq_ok fun s => rfl).1 h
    refine (run_bind_eq_ok fun s => rfl).2
      ⟨text, Prod.ext (hread.trans (Prod.mk.inj htext).1) rfl, ?_⟩
    split at h
    · next hdecode =>
      cases h
      rfl
    · cases h

theorem run_readCatalog_congr (h : (readCatalog host.toStorage dir c).run.run s = (.ok catalog, s))
    (hkind : t.disk.kind? (c.catalogPath dir) = s.disk.kind? (c.catalogPath dir))
    (hread : t.disk.read (c.catalogPath dir) = s.disk.read (c.catalogPath dir)) :
    (readCatalog host.toStorage dir c).run.run t = (.ok catalog, t) := by
  rw [readCatalog] at h ⊢
  obtain ⟨kind, hk, h⟩ := (run_bind_eq_ok fun s => rfl).1 h
  obtain rfl : s.disk.kind? _ = kind := Except.ok.inj (Prod.mk.inj hk).1
  refine (run_bind_eq_ok fun s => rfl).2 ⟨_, Prod.ext (congrArg Except.ok hkind) rfl, ?_⟩
  split at h
  · next hnone =>
    rw [if_pos hnone]
    cases h
    rfl
  · next hsome =>
    rw [if_neg hsome]
    obtain ⟨text, htext, h⟩ := (run_bind_eq_ok fun s => rfl).1 h
    obtain rfl : s.disk.read _ = text := Except.ok.inj (Prod.mk.inj htext).1
    refine (run_bind_eq_ok fun s => rfl).2 ⟨_, Prod.ext (congrArg Except.ok hread) rfl, ?_⟩
    split at h
    · cases h
    · split at h
      · next hdecode =>
        cases h
        rfl
      · cases h

theorem run_treeFiles_of_folder (h : s.disk.kind? input = some .folder) :
    (treeFiles host.toStorage dir c input).run.run s =
      (.ok (((((s.disk.filesBelow input).filter maybeTree).mergeSort walksBefore).map fun names =>
          (⟨input.descend names, names⟩ : TreeFile)).filter fun f =>
        (s.disk.resolve? (c.catalogPath dir)).isNone ||
          s.disk.resolve? f.path ≠ s.disk.resolve? (c.catalogPath dir)), s) := by
  refine (run_bind_eq_ok fun s => rfl).2 ⟨some .folder, ?_, ?_⟩
  · rw [← h]
    rfl
  · apply run_filterM
    exact fun f => rfl

theorem run_treeFiles_congr (h : (treeFiles host.toStorage dir c input).run.run s = (.ok files, s))
    (hgrows : s.disk.Grows t.disk)
    (hbelow : s.disk.kind? input = some .folder →
      (t.disk.filesBelow input).filter maybeTree = (s.disk.filesBelow input).filter maybeTree)
    (hcatalog : t.disk.resolve? (c.catalogPath dir) = s.disk.resolve? (c.catalogPath dir))
    (hfiles : ∀ f ∈ files, t.disk.resolve? f.path = s.disk.resolve? f.path) :
    (treeFiles host.toStorage dir c input).run.run t = (.ok files, t) := by
  cases hkind : s.disk.kind? input with
  | none =>
    rw [treeFiles] at h
    obtain ⟨kind, hk, h⟩ := (run_bind_eq_ok fun s => rfl).1 h
    obtain rfl : none = kind := hkind.symm.trans (Except.ok.inj (Prod.mk.inj hk).1)
    cases h
  | some kind =>
    have hkind' := hgrows.kind? hkind
    cases kind with
    | file =>
      rw [treeFiles] at h ⊢
      obtain ⟨kind, hk, h⟩ := (run_bind_eq_ok fun s => rfl).1 h
      obtain rfl : some .file = kind := hkind.symm.trans (Except.ok.inj (Prod.mk.inj hk).1)
      cases h
      exact (run_bind_eq_ok fun s => rfl).2 ⟨_, Prod.ext (congrArg Except.ok hkind') rfl, rfl⟩
    | folder =>
      rw [run_treeFiles_of_folder hkind] at h
      rw [run_treeFiles_of_folder hkind', hbelow hkind, hcatalog]
      obtain ⟨hok, -⟩ := Prod.mk.inj h
      obtain rfl := Except.ok.inj hok
      refine Prod.ext (congrArg Except.ok (List.filter_congr fun f hf => ?_)) rfl
      cases hkept : (s.disk.resolve? (c.catalogPath dir)).isNone ||
        decide (s.disk.resolve? f.path ≠ s.disk.resolve? (c.catalogPath dir)) with
      | true => rw [hfiles f (List.mem_filter.2 ⟨hf, hkept⟩), hkept]
      | false =>
        -- the file is the catalog, and still is
        rw [Bool.or_eq_false_iff, decide_eq_false_iff_not, Decidable.not_not] at hkept
        obtain ⟨path, hpath⟩ := Option.isSome_iff_exists.1 (Option.isNone_eq_false_iff.1 hkept.1)
        rw [hgrows.resolve? (hkept.2.trans hpath), hpath]
        simp

theorem run_prepare_eq_ok :
    (q.prepare host.toStorage dir).run.run s = (.ok (j, files), s) ↔
      ∃ c catalog, (readConfig host.toStorage dir).run.run s = (.ok c, s) ∧
        (readCatalog host.toStorage dir (c.withCatalog dir q.catalog)).run.run s
          = (.ok catalog, s) ∧
        (treeFiles host.toStorage dir (c.withCatalog dir q.catalog) (dir.join q.input)).run.run s
          = (.ok files, s) ∧
        j = q.job dir (c.withCatalog dir q.catalog) catalog := by
  rw [CompileRequest.prepare]
  constructor
  · intro h
    obtain ⟨c, hc, h⟩ := (run_bind_eq_ok (onlyReads_readConfig dir)).1 h
    obtain ⟨catalog, hcatalog, h⟩ := (run_bind_eq_ok (onlyReads_readCatalog dir _)).1 h
    obtain ⟨found, hfound, h⟩ := (run_bind_eq_ok (onlyReads_treeFiles dir _ _)).1 h
    cases h
    exact ⟨c, catalog, hc, hcatalog, hfound, rfl⟩
  · rintro ⟨c, catalog, hc, hcatalog, hfound, rfl⟩
    refine (run_bind_eq_ok (onlyReads_readConfig dir)).2 ⟨c, hc, ?_⟩
    refine (run_bind_eq_ok (onlyReads_readCatalog dir _)).2 ⟨catalog, hcatalog, ?_⟩
    exact (run_bind_eq_ok (onlyReads_treeFiles dir _ _)).2 ⟨files, hfound, rfl⟩

/-- If what is read is as it was, and no file is new where trees are looked for, then the same is to
be done. -/
theorem run_prepare_congr (h : (q.prepare host.toStorage dir).run.run s = (.ok (j, files), s))
    (hgrows : s.disk.Grows t.disk)
    (hsame : ∀ p ∈ j.inputs dir files,
      t.disk.resolve? p = s.disk.resolve? p ∧ t.disk.read p = s.disk.read p)
    (hnew : ∀ place, q.Searches dir s.disk place → s.disk.text? place = none →
      t.disk.text? place = none) :
    (q.prepare host.toStorage dir).run.run t = (.ok (j, files), t) := by
  obtain ⟨c, catalog, hc, hcatalog, hfiles, rfl⟩ := run_prepare_eq_ok.1 h
  refine run_prepare_eq_ok.2 ⟨c, catalog, ?_, ?_, ?_, rfl⟩
  · obtain ⟨hresolve, hread⟩ := hsame _ List.mem_cons_self
    exact run_readConfig_congr hc (hgrows.kind?_eq hresolve) hread
  · obtain ⟨hresolve, hread⟩ := hsame _ (List.mem_cons_of_mem _ List.mem_cons_self)
    exact run_readCatalog_congr hcatalog (hgrows.kind?_eq hresolve) hread
  · apply run_treeFiles_congr hfiles hgrows
    · intro hkind
      obtain ⟨folder, hfolder, -⟩ := Option.bind_eq_some_iff.1 hkind
      apply hgrows.filter_filesBelow hfolder
      intro names htree
      exact hnew _ ⟨folder, names, hfolder, rfl, htree⟩
    · exact (hsame _ (List.mem_cons_of_mem _ List.mem_cons_self)).1
    · intro f hf
      exact (hsame _ (List.mem_cons_of_mem _ (List.mem_cons_of_mem _ (List.mem_map_of_mem hf)))).1

end Criteria.Project
