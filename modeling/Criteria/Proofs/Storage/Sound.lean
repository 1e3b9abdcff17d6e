import Criteria.Proofs.Path
import Criteria.Proofs.Storage.Growth
import Mathlib.Data.List.Induction
import Mathlib.Data.List.Nodup

namespace Criteria

namespace Disk

open Criteria.Path (IsStep IsName)

variable {d e : Disk} {p folder : Path} {s name : String}
  {place q r parts before names names' : List String}

theorem follow_append (d : Disk) (place parts parts' : List String) :
    d.follow place (parts ++ parts') = (d.follow place parts).bind fun q => d.follow q parts' := by
  fun_induction d.follow place parts with
  | case1 place => rfl
  | case2 place part parts hfolder =>
    rw [List.cons_append, follow, if_pos hfolder]
    rfl
  | case3 place part parts hfolder hstays ih =>
    rw [List.cons_append, follow, if_neg hfolder, if_pos hstays, ih]
  | case4 place parts hfolder hstays ih =>
    rw [List.cons_append, follow, if_neg hfolder, if_neg hstays, if_pos rfl, ih]
  | case5 place part parts hfolder hstays hup ih =>
    rw [List.cons_append, follow, if_neg hfolder, if_neg hstays, if_neg hup, ih]

theorem follow_eq_none (hplace : d.isFolder place = false) (hparts : parts ≠ []) :
    d.follow place parts = none := by
  obtain ⟨part, parts, rfl⟩ := List.exists_cons_of_ne_nil hparts
  rw [follow, hplace]
  rfl

/-- Parts that lead nowhere else can be left out before a name, which asks for a folder just as they
do. -/
theorem follow_steps (d : Disk) (place before : List String) (name : String) :
    d.follow place (before ++ [name])
      = d.follow place (before.filter (fun part => !Path.stays part) ++ [name]) := by
  induction before generalizing place with
  | nil => rfl
  | cons part before ih =>
    cases hfolder : d.isFolder place with
    | false => rw [follow_eq_none hfolder (by simp), follow_eq_none hfolder (by simp)]
    | true =>
      have hgo : ¬(!d.isFolder place) = true := by rw [hfolder]; decide
      cases hstays : Path.stays part with
      | true =>
        rw [List.cons_append, follow, if_neg hgo, if_pos hstays, ih,
          List.filter_cons_of_neg (by rw [hstays]; decide)]
      | false =>
        rw [List.filter_cons_of_pos (by rw [hstays]; rfl), List.cons_append, List.cons_append,
          follow, follow, ih place.dropLast, ih (place ++ [part])]
        simp only [hstays, Bool.false_eq_true, if_false]

theorem follow_filter (h : d.follow place parts = some q) :
    d.follow place (parts.filter fun part => !Path.stays part) = some q := by
  fun_induction d.follow place parts with
  | case1 place => exact h
  | case2 place part parts hfolder => cases h
  | case3 place part parts hfolder hstays ih =>
    rw [List.filter_cons_of_neg (by rw [hstays]; decide)]
    exact ih h
  | case4 place parts hfolder hstays ih =>
    rw [List.filter_cons_of_pos rfl, Disk.follow, if_neg hfolder, if_neg hstays, if_pos rfl]
    exact ih h
  | case5 place part parts hfolder hstays hup ih =>
    rw [List.filter_cons_of_pos (by rw [Bool.eq_false_iff.2 hstays]; rfl), Disk.follow,
      if_neg hfolder, if_neg hstays, if_neg hup]
    exact ih h

theorem place?_descend (d : Disk) (folder : Path) (hnames : names ≠ [])
    (h : ∀ name ∈ names, IsStep name) :
    d.place? (folder.descend names) = d.follow (d.origin folder) (folder.steps ++ names) := by
  obtain ⟨init, name, rfl⟩ := (List.eq_nil_or_concat' names).resolve_left hnames
  obtain ⟨hinit, hlast⟩ := List.forall_mem_append.1 h
  have hname := hlast name List.mem_cons_self
  have horigin : d.origin ((folder.descend init).join ⟨name⟩) = d.origin folder := by
    rw [origin, origin, Path.isAbsolute_join _ hname, Path.isAbsolute_descend folder hinit]
  obtain ⟨before, hparts, hbefore⟩ := Path.parts_join (folder.descend init) hname
  rw [Path.descend_append]
  change d.place? ((folder.descend init).join ⟨name⟩) = _
  rw [place?, if_neg (mt String.isEmpty_iff.1 (Path.text_join_ne _ hname)), horigin, hparts,
    follow_steps, hbefore, Path.steps_descend folder hinit, List.append_assoc]

theorem eq_append_of_follow (h : ∀ name ∈ names, IsName name)
    (hq : d.follow place names = some q) : q = place ++ names := by
  fun_induction d.follow place names with
  | case1 place =>
    rw [List.append_nil]
    exact (Option.some.inj hq).symm
  | case2 place name names hfolder => cases hq
  | case3 place name names hfolder hstays ih =>
    rw [(List.forall_mem_cons.1 h).1.1.1] at hstays
    cases hstays
  | case4 place names hfolder hstays ih => exact absurd rfl (List.forall_mem_cons.1 h).1.2
  | case5 place name names hfolder hstays hup ih =>
    rw [ih (List.forall_mem_cons.1 h).2 hq, List.append_assoc]
    rfl

theorem names_eq_of_place? (h : ∀ name ∈ names, IsName name) (h' : ∀ name ∈ names', IsName name)
    (hnames : names ≠ []) (hnames' : names' ≠ []) (hq : d.place? (folder.descend names) = some q)
    (hq' : d.place? (folder.descend names') = some q) : names = names' := by
  rw [place?_descend d folder hnames fun name hname => (h name hname).1, follow_append] at hq
  rw [place?_descend d folder hnames' fun name hname => (h' name hname).1, follow_append] at hq'
  obtain ⟨r, hr, hq⟩ := Option.bind_eq_some_iff.1 hq
  obtain ⟨r', hr', hq'⟩ := Option.bind_eq_some_iff.1 hq'
  obtain rfl := Option.some.inj (hr.symm.trans hr')
  exact List.append_cancel_left ((eq_append_of_follow h hq).symm.trans (eq_append_of_follow h' hq'))

/-- The places of all that is there. -/
def places (d : Disk) : List (List String) := [] :: d.folders ++ d.files.map (·.1)

/-- Whether something can be in a place. -/
def HasRoom (d : Disk) (place : List String) : Prop :=
  (∀ name ∈ place, IsName name) ∧ d.isFolder place.dropLast

instance (d : Disk) (place : List String) : Decidable (d.HasRoom place) :=
  inferInstanceAs (Decidable (_ ∧ _))

structure Sound (d : Disk) : Prop where
  here : d.isFolder d.here
  room : ∀ place ∈ d.places, d.HasRoom place
  distinct : d.places.Nodup

instance (d : Disk) : Decidable d.Sound :=
  decidable_of_iff (d.isFolder d.here ∧ (∀ place ∈ d.places, d.HasRoom place) ∧ d.places.Nodup)
    ⟨fun ⟨here, room, distinct⟩ => ⟨here, room, distinct⟩,
      fun h => ⟨h.here, h.room, h.distinct⟩⟩

theorem isFolder_iff : d.isFolder place ↔ place ∈ [] :: d.folders := by
  rw [isFolder, Bool.or_eq_true, List.isEmpty_iff, List.contains_iff_mem, List.mem_cons]

theorem mem_places : place ∈ d.places ↔ d.isFolder place ∨ (d.text? place).isSome := by
  rw [places, List.mem_append, ← isFolder_iff, isSome_text?_iff]

theorem kindAt?_eq_none : d.kindAt? place = none ↔ place ∉ d.places := by
  rw [mem_places, kindAt?]
  split
  · next h => simp [h]
  · next h =>
    split
    · next h' => simp [h']
    · next h' => simp [h, h']

theorem HasRoom.mono (h : d.HasRoom place) (hgrows : d.Grows e) : e.HasRoom place :=
  ⟨h.1, hgrows.folders _ h.2⟩

theorem Sound.isFolder_dropLast (h : d.Sound) (hplace : d.isFolder place) :
    d.isFolder place.dropLast :=
  (h.room place (mem_places.2 (.inl hplace))).2

theorem Sound.isName (h : d.Sound) (hplace : place ∈ d.places) : ∀ name ∈ place, IsName name :=
  (h.room place hplace).1

theorem Sound.hasRoom_of_follow (h : d.Sound) (hparts : ∀ part ∈ parts, '/' ∉ part.toList)
    (hplace : d.HasRoom place) (hq : d.follow place parts = some q) : d.HasRoom q := by
  fun_induction d.follow place parts with
  | case1 place => rwa [← Option.some.inj hq]
  | case2 place part parts hfolder => cases hq
  | case3 place part parts hfolder hstays ih =>
    exact ih (List.forall_mem_cons.1 hparts).2 hplace hq
  | case4 place parts hfolder hstays ih =>
    refine ih (List.forall_mem_cons.1 hparts).2 ⟨?_, h.isFolder_dropLast hplace.2⟩ hq
    exact fun name hname => hplace.1 name (List.dropLast_subset _ hname)
  | case5 place part parts hfolder hstays hup ih =>
    rw [Bool.not_eq_true, Bool.not_eq_false'] at hfolder
    obtain ⟨hpart, hparts⟩ := List.forall_mem_cons.1 hparts
    refine ih hparts ⟨?_, by rwa [List.dropLast_concat]⟩ hq
    intro name hname
    rcases List.mem_append.1 hname with hname | hname
    · exact hplace.1 name hname
    · obtain rfl := List.mem_singleton.1 hname
      exact ⟨⟨Bool.eq_false_iff.2 hstays, hpart⟩, hup⟩

theorem Sound.isFolder_origin (h : d.Sound) (p : Path) : d.isFolder (d.origin p) := by
  rw [origin]
  split
  · rfl
  · exact h.here

theorem Sound.hasRoom (h : d.Sound) (hq : d.place? p = some q) : d.HasRoom q := by
  rw [place?] at hq
  split at hq
  · cases hq
  · have horigin := h.room _ (mem_places.2 (.inl (h.isFolder_origin p)))
    exact h.hasRoom_of_follow (fun part hpart => Path.notMem_of_mem_parts hpart) horigin hq

theorem Sound.isFolder_of_up (h : d.Sound) (hq : d.follow place (parts ++ [".."]) = some q) :
    d.isFolder q := by
  rw [follow_append] at hq
  obtain ⟨r, -, hq⟩ := Option.bind_eq_some_iff.1 hq
  cases hfolder : d.isFolder r with
  | false =>
    rw [follow_eq_none hfolder (List.cons_ne_nil _ _)] at hq
    cases hq
  | true =>
    rw [follow, hfolder, if_neg (by decide), if_neg (by decide), if_pos rfl] at hq
    rw [← Option.some.inj hq]
    exact h.isFolder_dropLast hfolder

theorem Sound.follow (h : d.Sound) (hnames : ∀ name ∈ names, IsName name)
    (hfolder : d.isFolder (place ++ names).dropLast) (hplace : names ≠ []) :
    d.follow place names = some (place ++ names) := by
  induction names using List.reverseRecOn with
  | nil => exact absurd rfl hplace
  | append_singleton init name ih =>
    obtain ⟨hinit, hlast⟩ := List.forall_mem_append.1 hnames
    obtain ⟨⟨hstays, -⟩, hup⟩ := hlast name List.mem_cons_self
    rw [← List.append_assoc, List.dropLast_concat] at hfolder
    have hbefore : d.follow place init = some (place ++ init) := by
      by_cases hempty : init = []
      · rw [hempty, List.append_nil]
        rfl
      · exact ih hinit (h.isFolder_dropLast hfolder) hempty
    rw [follow_append, hbefore, Option.bind_some, Disk.follow, hfolder, if_neg (by decide),
      if_neg (by rw [hstays]; decide), if_neg hup, ← List.append_assoc]
    rfl

theorem Sound.place?_of_mem_filesBelow (h : d.Sound) {place : List String}
    (hplace : d.place? folder = some place) (hnames : names ∈ d.filesBelow folder) :
    (∀ name ∈ names, IsName name) ∧ d.place? (folder.descend names) = some (place ++ names) := by
  rw [filesBelow_eq hplace] at hnames
  obtain ⟨q, hq, hbelow⟩ := List.mem_filterMap.1 hnames
  obtain rfl := eq_append_of_below? hbelow
  have hroom := h.room _ (mem_places.2 (.inr ((isSome_text?_iff d _).2 hq)))
  have hall : ∀ name ∈ names, IsName name :=
    fun name hname => hroom.1 name (List.mem_append_right place hname)
  refine ⟨hall, ?_⟩
  by_cases hempty : names = []
  · rw [hempty, List.append_nil]
    exact hplace
  · rw [place?] at hplace
    split at hplace
    · cases hplace
    · rw [place?_descend d folder hempty fun name hname => (hall name hname).1, follow_append,
        Path.steps, follow_filter hplace, Option.bind_some]
      exact h.follow hall hroom.2 hempty

theorem Sound.nodup_filesBelow (h : d.Sound) (p : Path) : (d.filesBelow p).Nodup := by
  cases hplace : d.place? p with
  | none =>
    rw [filesBelow, hplace]
    exact List.nodup_nil
  | some folder =>
    rw [filesBelow_eq hplace]
    refine List.Nodup.filterMap ?_ (List.nodup_append.1 h.distinct).2.1
    intro place place' names hnames hnames'
    rw [eq_append_of_below? hnames, eq_append_of_below? hnames']

theorem sound_write (h : d.Sound) (hwrite : d.write p s = .ok e) : e.Sound := by
  have hgrows := grows_write hwrite
  obtain ⟨place, hplace, hno, rfl⟩ := write_eq_ok hwrite
  by_cases hold : place ∈ d.files.map (·.1)
  · have hplaces : places { d with files := put place s d.files } = d.places := by
      rw [places, places, map_put, if_pos hold]
    refine ⟨h.here, ?_, hplaces ▸ h.distinct⟩
    rw [hplaces]
    exact fun q hq => (h.room q hq).mono hgrows
  · have hplaces : places { d with files := put place s d.files } = d.places ++ [place] := by
      rw [places, places, map_put, if_neg hold, List.append_assoc]
    have hnew : place ∉ d.places := by
      rw [mem_places, isSome_text?_iff, hno]
      exact not_or.2 ⟨Bool.false_ne_true, hold⟩
    refine ⟨h.here, ?_, ?_⟩
    · rw [hplaces]
      intro q hq
      rcases List.mem_append.1 hq with hq | hq
      · exact (h.room q hq).mono hgrows
      · rw [List.mem_singleton.1 hq]
        exact (h.hasRoom hplace).mono hgrows
    · rw [hplaces, ← List.concat_eq_append]
      exact List.Nodup.concat hnew h.distinct

theorem sound_folder (h : d.Sound) (hnone : d.kindAt? place = none) (hroom : d.HasRoom place) :
    Sound { d with folders := d.folders ++ [place] } := by
  have hgrows := grows_folder hnone
  have hplaces : (places { d with folders := d.folders ++ [place] }).Perm (place :: d.places) := by
    rw [places, places, ← List.cons_append, List.append_assoc]
    exact List.perm_middle
  refine ⟨hgrows.folders _ h.here, ?_, ?_⟩
  · intro q hq
    rcases List.mem_cons.1 (hplaces.mem_iff.1 hq) with rfl | hq
    · exact hroom.mono hgrows
    · exact (h.room q hq).mono hgrows
  · rw [hplaces.nodup_iff]
    exact List.nodup_cons.2 ⟨kindAt?_eq_none.1 hnone, h.distinct⟩

theorem sound_makeAlong (h : d.Sound) (hplace : d.isFolder place)
    (hparts : ∀ part ∈ parts, '/' ∉ part.toList) : (d.makeAlong place parts).2.Sound := by
  fun_induction d.makeAlong place parts with
  | case1 d place => exact h
  | case2 d place part parts hstays ih => exact ih h hplace (List.forall_mem_cons.1 hparts).2
  | case3 d place parts hstays ih =>
    exact ih h (h.isFolder_dropLast hplace) (List.forall_mem_cons.1 hparts).2
  | case4 d place part parts hstays hup next hkind ih =>
    exact ih h (isFolder_of_kindAt? hkind) (List.forall_mem_cons.1 hparts).2
  | case5 d place part parts hstays hup next hkind => exact h
  | case6 d place part parts hstays hup next hkind ih =>
    obtain ⟨hpart, hparts⟩ := List.forall_mem_cons.1 hparts
    have hroom : d.HasRoom next := by
      refine ⟨?_, by rwa [List.dropLast_concat]⟩
      intro name hname
      rcases List.mem_append.1 hname with hname | hname
      · exact h.isName (mem_places.2 (.inl hplace)) name hname
      · obtain rfl := List.mem_singleton.1 hname
        exact ⟨⟨Bool.eq_false_iff.2 hstays, hpart⟩, hup⟩
    exact ih (sound_folder h hkind hroom) (by simp [isFolder_append, next]) hparts

theorem sound_makeFolders (h : d.Sound) (p : Path) : (d.makeFolders p).2.Sound :=
  sound_makeAlong h (h.isFolder_origin p) fun _ hpart => Path.notMem_of_mem_parts hpart

end Disk

end Criteria
