import Criteria.Proofs.Storage

namespace Criteria

namespace Disk

variable {d e : Disk} {p : Path} {s : String} {place q : List String}

theorem isSome_text?_iff (d : Disk) (place : List String) :
    (d.text? place).isSome ↔ place ∈ d.files.map (·.1) := by
  rw [text?, Option.isSome_map, List.find?_isSome, List.mem_map]
  simp

/-- What may become of a disk by writing files and making folders. -/
structure Grows (d e : Disk) : Prop where
  here : e.here = d.here
  folders : ∀ place, d.isFolder place → e.isFolder place
  /-- New files come after those that were there. -/
  files : ∃ new, e.files.map (·.1) = d.files.map (·.1) ++ new ∧ ∀ place ∈ new, d.text? place = none
  /-- A file never becomes a folder. -/
  apart : ∀ place, (d.text? place).isSome → d.isFolder place = false → e.isFolder place = false

theorem Grows.isSome (h : d.Grows e) (hplace : (d.text? place).isSome) :
    (e.text? place).isSome := by
  obtain ⟨new, hnew, -⟩ := h.files
  rw [isSome_text?_iff] at hplace ⊢
  rw [hnew]
  exact List.mem_append_left new hplace

theorem Grows.refl (d : Disk) : d.Grows d :=
  ⟨rfl, fun _ => id, ⟨[], (List.append_nil _).symm, nofun⟩, fun _ _ => id⟩

theorem Grows.trans {m : Disk} (h : d.Grows m) (h' : m.Grows e) : d.Grows e where
  here := h'.here.trans h.here
  folders place hplace := h'.folders place (h.folders place hplace)
  files := by
    obtain ⟨new, hnew, hnone⟩ := h.files
    obtain ⟨new', hnew', hnone'⟩ := h'.files
    refine ⟨new ++ new', by rw [hnew', hnew, List.append_assoc], ?_⟩
    intro place hplace
    rcases List.mem_append.1 hplace with hplace | hplace
    · exact hnone place hplace
    · cases hold : d.text? place with
      | none => rfl
      | some text =>
        have hm : (m.text? place).isSome := h.isSome (Option.isSome_of_eq_some hold)
        rw [hnone' place hplace] at hm
        cases hm
  apart place hplace hno := h'.apart place (h.isSome hplace) (h.apart place hplace hno)

theorem Grows.follow (h : d.Grows e) (place parts : List String) :
    d.follow place parts = some q → e.follow place parts = some q := by
  have hfolders : ∀ place, ¬(!d.isFolder place) = true → ¬(!e.isFolder place) = true := by
    intro place hfolder
    rw [Bool.not_eq_true, Bool.not_eq_false'] at hfolder ⊢
    exact h.folders place hfolder
  fun_induction d.follow place parts with
  | case1 place => exact id
  | case2 place part parts hfolder => exact nofun
  | case3 place part parts hfolder hstays ih =>
    rw [Disk.follow, if_neg (hfolders place hfolder), if_pos hstays]
    exact ih
  | case4 place parts hfolder hstays ih =>
    rw [Disk.follow, if_neg (hfolders place hfolder), if_neg hstays, if_pos rfl]
    exact ih
  | case5 place part parts hfolder hstays hup ih =>
    rw [Disk.follow, if_neg (hfolders place hfolder), if_neg hstays, if_neg hup]
    exact ih

theorem Grows.place? (h : d.Grows e) (hq : d.place? p = some q) : e.place? p = some q := by
  rw [Disk.place?] at hq ⊢
  split at hq
  · cases hq
  · next hempty =>
    have horigin : e.origin p = d.origin p := by rw [origin, origin, h.here]
    rw [if_neg hempty, horigin]
    exact h.follow _ p.parts hq

theorem Grows.kindAt? {kind : FileKind} (h : d.Grows e) (hkind : d.kindAt? place = some kind) :
    e.kindAt? place = some kind := by
  rw [Disk.kindAt?] at hkind ⊢
  split at hkind
  · next hfolder => rwa [if_pos (h.folders place hfolder)]
  · next hfolder =>
    split at hkind
    · next hsome =>
      rwa [if_neg (Bool.eq_false_iff.1 (h.apart place hsome (Bool.eq_false_iff.2 hfolder))),
        if_pos (h.isSome hsome)]
    · cases hkind

theorem Grows.kind? {kind : FileKind} (h : d.Grows e) (hkind : d.kind? p = some kind) :
    e.kind? p = some kind := by
  obtain ⟨place, hplace, hkind⟩ := Option.bind_eq_some_iff.1 hkind
  exact Option.bind_eq_some_iff.2 ⟨place, h.place? hplace, h.kindAt? hkind⟩

theorem resolve?_eq_some {path : Path} : d.resolve? p = some path ↔
    ∃ place kind, d.place? p = some place ∧ d.kindAt? place = some kind ∧
      path = ⟨"/" ++ "/".intercalate place⟩ := by
  rw [resolve?]
  simp only [Option.bind_eq_bind, Option.bind_eq_some_iff, Option.pure_def, Option.some.injEq,
    eq_comm (a := path)]
  constructor
  · rintro ⟨place, hplace, kind, hkind, hpath⟩
    exact ⟨place, kind, hplace, hkind, hpath⟩
  · rintro ⟨place, kind, hplace, hkind, hpath⟩
    exact ⟨place, hplace, kind, hkind, hpath⟩

theorem isSome_resolve? (d : Disk) (p : Path) : (d.resolve? p).isSome = (d.kind? p).isSome := by
  rw [resolve?, Disk.kind?]
  cases hplace : d.place? p with
  | none => rfl
  | some place =>
    change ((d.kindAt? place).bind fun _ => _).isSome = (d.kindAt? place).isSome
    cases d.kindAt? place <;> rfl

theorem Grows.resolve? {path : Path} (h : d.Grows e) (hpath : d.resolve? p = some path) :
    e.resolve? p = some path := by
  obtain ⟨place, kind, hplace, hkind, rfl⟩ := resolve?_eq_some.1 hpath
  exact resolve?_eq_some.2 ⟨place, kind, h.place? hplace, h.kindAt? hkind, rfl⟩

theorem Grows.kind?_eq (h : d.Grows e) (hsame : e.resolve? p = d.resolve? p) :
    e.kind? p = d.kind? p := by
  cases hkind : d.kind? p with
  | some kind => exact h.kind? hkind
  | none =>
    have hnone : (e.kind? p).isSome = false := by
      rw [← isSome_resolve?, hsame, isSome_resolve?, hkind]
      rfl
    rwa [Option.isSome_eq_false_iff, Option.isNone_iff_eq_none] at hnone

theorem eq_append_of_below? {folder names : List String} (h : below? folder place = some names) :
    place = folder ++ names := by
  rw [below?] at h
  split at h
  · next hbelow =>
    rw [Bool.and_eq_true, List.isPrefixOf_iff_prefix] at hbelow
    obtain ⟨rest, rfl⟩ := hbelow.1
    rw [List.drop_left, Option.some.injEq] at h
    rw [h]
  · cases h

theorem filesBelow_eq {folder : List String} (hfolder : d.place? p = some folder) :
    d.filesBelow p = (d.files.map (·.1)).filterMap (below? folder) := by
  rw [Disk.filesBelow, hfolder, List.filterMap_map]
  rfl

theorem Grows.filesBelow {folder : List String} (h : d.Grows e)
    (hfolder : d.place? p = some folder) :
    ∃ new, e.filesBelow p = d.filesBelow p ++ new ∧
      ∀ names ∈ new, d.text? (folder ++ names) = none ∧ (e.text? (folder ++ names)).isSome := by
  obtain ⟨new, hnew, hnone⟩ := h.files
  refine ⟨new.filterMap (below? folder), ?_, ?_⟩
  · rw [filesBelow_eq (h.place? hfolder), filesBelow_eq hfolder, hnew, List.filterMap_append]
  · intro names hnames
    obtain ⟨place, hplace, hbelow⟩ := List.mem_filterMap.1 hnames
    rw [← eq_append_of_below? hbelow, isSome_text?_iff, hnew]
    exact ⟨hnone place hplace, List.mem_append_right _ hplace⟩

theorem Grows.filter_filesBelow {folder : List String} {kept : List String → Bool} (h : d.Grows e)
    (hfolder : d.place? p = some folder)
    (hnew : ∀ names, kept names → d.text? (folder ++ names) = none →
      e.text? (folder ++ names) = none) :
    (e.filesBelow p).filter kept = (d.filesBelow p).filter kept := by
  obtain ⟨new, hbelow, hnone⟩ := h.filesBelow hfolder
  have hno : new.filter kept = [] := by
    rw [List.filter_eq_nil_iff]
    intro names hnames hkept
    obtain ⟨hold, hsome⟩ := hnone names hnames
    rw [hnew names hkept hold] at hsome
    cases hsome
  rw [hbelow, List.filter_append, hno, List.append_nil]

theorem text?_put_self (place : List String) (s : String) (d : Disk) :
    text? { d with files := put place s d.files } place = some s := text?_put place s d.files

theorem text?_put_ne (hne : q ≠ place) (s : String) (d : Disk) :
    text? { d with files := put place s d.files } q = d.text? q := by
  obtain ⟨files, -, -⟩ := d
  rw [text?, text?]
  congr 1
  induction files with
  | nil => exact List.find?_cons_of_neg (by simpa using Ne.symm hne)
  | cons f files ih =>
    rw [put]
    split
    · next hplace =>
      rw [List.find?_cons_of_neg (by simpa using Ne.symm hne),
        List.find?_cons_of_neg (by simpa [hplace] using Ne.symm hne)]
    · rw [List.find?_cons, List.find?_cons]
      split
      · rfl
      · exact ih

theorem write_eq_ok (h : d.write p s = .ok e) :
    ∃ place, d.place? p = some place ∧ d.isFolder place = false ∧
      e = { d with files := put place s d.files } := by
  rw [write] at h
  split at h
  · cases h
  · next place hplace =>
    split at h
    · cases h
    · next hno =>
      cases h
      exact ⟨place, hplace, Bool.eq_false_iff.2 hno, rfl⟩

theorem write_of_place? (hplace : d.place? p = some place) (hno : d.isFolder place = false)
    (s : String) : d.write p s = .ok { d with files := put place s d.files } := by
  rw [write, hplace]
  dsimp only
  rw [if_neg (Bool.eq_false_iff.1 hno)]

theorem map_put (place : List String) (s : String) (files : List (List String × String)) :
    (put place s files).map (·.1) =
      if place ∈ files.map (·.1) then files.map (·.1) else files.map (·.1) ++ [place] := by
  induction files with
  | nil => rfl
  | cons f files ih =>
    rw [put]
    by_cases hplace : f.1 = place
    · simp [hplace]
    · rw [if_neg hplace, List.map_cons, ih, List.map_cons]
      simp only [List.mem_cons, Ne.symm hplace, false_or]
      split <;> rfl

theorem grows_write (h : d.write p s = .ok e) : d.Grows e := by
  obtain ⟨place, -, -, rfl⟩ := write_eq_ok h
  refine ⟨rfl, fun _ => id, ?_, fun _ _ => id⟩
  dsimp only
  rw [map_put]
  split
  · exact ⟨[], (List.append_nil _).symm, nofun⟩
  · next hnew =>
    refine ⟨[place], rfl, ?_⟩
    intro q hq
    obtain rfl := List.mem_singleton.1 hq
    rwa [← isSome_text?_iff, Bool.not_eq_true, Option.isSome_eq_false_iff,
      Option.isNone_iff_eq_none] at hnew

theorem isFolder_append (d : Disk) (place q : List String) :
    { d with folders := d.folders ++ [place] }.isFolder q
      = (d.isFolder q || decide (q = place)) := by
  simp [isFolder, Bool.or_assoc]

theorem grows_folder (hnone : d.kindAt? place = none) :
    d.Grows { d with folders := d.folders ++ [place] } := by
  refine ⟨rfl, ?_, ⟨[], (List.append_nil _).symm, nofun⟩, ?_⟩
  · intro q hq
    rw [isFolder_append, hq, Bool.true_or]
  · intro q hq hno
    rw [isFolder_append, hno, Bool.false_or, decide_eq_false_iff_not]
    rintro rfl
    rw [kindAt?, if_neg (Bool.eq_false_iff.1 hno), if_pos hq] at hnone
    cases hnone

theorem grows_makeAlong (d : Disk) (place parts : List String) :
    d.Grows (d.makeAlong place parts).2 := by
  fun_induction d.makeAlong place parts with
  | case1 d place => exact .refl d
  | case2 d place part parts hstays ih => exact ih
  | case3 d place parts hstays ih => exact ih
  | case4 d place part parts hstays hup next hkind ih => exact ih
  | case5 d place part parts hstays hup next hkind => exact .refl d
  | case6 d place part parts hstays hup next hkind ih => exact (grows_folder hkind).trans ih

theorem files_makeAlong (d : Disk) (place parts : List String) :
    (d.makeAlong place parts).2.files = d.files := by
  fun_induction d.makeAlong place parts with
  | case1 d place => rfl
  | case2 d place part parts hstays ih => exact ih
  | case3 d place parts hstays ih => exact ih
  | case4 d place part parts hstays hup next hkind ih => exact ih
  | case5 d place part parts hstays hup next hkind => rfl
  | case6 d place part parts hstays hup next hkind ih => exact ih

theorem text?_makeAlong (d : Disk) (place parts q : List String) :
    (d.makeAlong place parts).2.text? q = d.text? q := by
  rw [text?, text?, files_makeAlong]

theorem isFolder_of_kindAt? (h : d.kindAt? place = some .folder) : d.isFolder place := by
  rw [kindAt?] at h
  split at h
  · next hfolder => exact hfolder
  · split at h <;> cases h

theorem makeAlong_again (d : Disk) (place parts : List String)
    (hok : (d.makeAlong place parts).1 = .ok ())
    (hfolders : ∀ q, (d.makeAlong place parts).2.isFolder q → e.isFolder q) :
    e.makeAlong place parts = (.ok (), e) := by
  fun_induction d.makeAlong place parts with
  | case1 d place => rfl
  | case2 d place part parts hstays ih =>
    rw [makeAlong, if_pos hstays]
    exact ih hok hfolders
  | case3 d place parts hstays ih =>
    rw [makeAlong, if_neg hstays, if_pos rfl]
    exact ih hok hfolders
  | case4 d place part parts hstays hup next hkind ih =>
    have hfolder : e.isFolder next :=
      hfolders _ ((grows_makeAlong d next parts).folders _ (isFolder_of_kindAt? hkind))
    rw [makeAlong, if_neg hstays, if_neg hup]
    dsimp only
    rw [kindAt?, if_pos hfolder]
    exact ih hok hfolders
  | case5 d place part parts hstays hup next hkind => cases hok
  | case6 d place part parts hstays hup next hkind ih =>
    have hfolder : e.isFolder next :=
      hfolders _ ((grows_makeAlong _ next parts).folders _ (by simp [isFolder_append]))
    rw [makeAlong, if_neg hstays, if_neg hup]
    dsimp only
    rw [kindAt?, if_pos hfolder]
    exact ih hok hfolders

theorem read_congr (h : (d.place? p).bind d.text? = (e.place? p).bind e.text?) :
    d.read p = e.read p := by
  rw [read, read, h]

theorem read_eq_ok :
    d.read p = .ok s ↔ ∃ place, d.place? p = some place ∧ d.text? place = some s := by
  rw [read, ← Option.bind_eq_some_iff]
  split
  · next hs => rw [hs, Except.ok.injEq, Option.some.injEq]
  · next hs => simp [hs]

end Disk

end Criteria
