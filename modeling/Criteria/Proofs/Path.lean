import Criteria.Path
import Mathlib.Data.List.TakeDrop
import Mathlib.Data.List.TakeWhile

namespace Criteria.Path

variable {folder : Path} {name stem e : String} {names names' : List String}

/-- Whether a text is one part of a path, and leads somewhere. -/
def IsStep (name : String) : Prop := stays name = false ∧ '/' ∉ name.toList

/-- A step down. -/
def IsName (name : String) : Prop := IsStep name ∧ name ≠ ".."

instance (name : String) : Decidable (IsStep name) := inferInstanceAs (Decidable (_ ∧ _))

instance (name : String) : Decidable (IsName name) := inferInstanceAs (Decidable (_ ∧ _))

def steps (p : Path) : List String := p.parts.filter fun part => !stays part

theorem splitAtSlashes_ne_nil (cs : List Char) : splitAtSlashes cs ≠ [] := by
  fun_cases splitAtSlashes cs <;> simp

theorem splitAtSlashes_cons {c : Char} (hc : c ≠ '/') {cs : List Char} {p : List Char}
    {ps : List (List Char)} (h : splitAtSlashes cs = p :: ps) :
    splitAtSlashes (c :: cs) = (c :: p) :: ps := by
  rw [splitAtSlashes, h]
  exact hc

theorem splitAtSlashes_append_slash (cs ds : List Char) :
    splitAtSlashes (cs ++ '/' :: ds) = splitAtSlashes cs ++ splitAtSlashes ds := by
  induction cs with
  | nil => rfl
  | cons c cs ih =>
    by_cases hc : c = '/'
    · subst hc
      exact congrArg ([] :: ·) ih
    · obtain ⟨p, ps, hps⟩ := List.exists_cons_of_ne_nil (splitAtSlashes_ne_nil cs)
      rw [hps, List.cons_append] at ih
      rw [List.cons_append, splitAtSlashes_cons hc ih, splitAtSlashes_cons hc hps, List.cons_append]

theorem splitAtSlashes_of_notMem {cs : List Char} (h : '/' ∉ cs) : splitAtSlashes cs = [cs] := by
  induction cs with
  | nil => rfl
  | cons c cs ih =>
    rw [List.mem_cons, not_or] at h
    exact splitAtSlashes_cons (Ne.symm h.1) (ih h.2)

theorem notMem_of_mem_splitAtSlashes {cs p : List Char} (h : p ∈ splitAtSlashes cs) : '/' ∉ p := by
  induction cs generalizing p with
  | nil =>
    obtain rfl := List.mem_singleton.1 h
    exact List.not_mem_nil
  | cons c cs ih =>
    by_cases hc : c = '/'
    · subst hc
      rcases List.mem_cons.1 h with rfl | h
      · exact List.not_mem_nil
      · exact ih h
    · obtain ⟨q, qs, hqs⟩ := List.exists_cons_of_ne_nil (splitAtSlashes_ne_nil cs)
      rw [hqs] at ih
      rw [splitAtSlashes_cons hc hqs] at h
      rcases List.mem_cons.1 h with rfl | h
      · exact List.not_mem_cons_of_ne_of_not_mem (Ne.symm hc) (ih List.mem_cons_self)
      · exact ih (List.mem_cons_of_mem q h)

theorem notMem_of_mem_parts {p : Path} {part : String} (h : part ∈ p.parts) :
    '/' ∉ part.toList := by
  obtain ⟨cs, hcs, rfl⟩ := List.mem_map.1 h
  rw [String.toList_ofList]
  exact notMem_of_mem_splitAtSlashes hcs

theorem isAbsolute_of_notMem (h : '/' ∉ name.toList) : isAbsolute ⟨name⟩ = false := by
  rw [isAbsolute, decide_eq_false_iff_not]
  exact fun hhead => h (List.mem_of_mem_head? hhead)

theorem parts_slash (cs : List Char) (hname : '/' ∉ name.toList) :
    parts ⟨String.ofList (cs ++ '/' :: name.toList)⟩
      = (splitAtSlashes cs).map String.ofList ++ [name] := by
  rw [parts, String.toList_ofList, splitAtSlashes_append_slash, splitAtSlashes_of_notMem hname,
    List.map_append]
  exact congrArg _ (congrArg (fun s => [s]) String.ofList_toList)

/-- A name that is joined to a path is its last part. Of the parts before it, those of the path that
lead somewhere are left. -/
theorem parts_join (folder : Path) (h : IsStep name) :
    ∃ before, (folder.join ⟨name⟩).parts = before ++ [name] ∧
      before.filter (fun part => !stays part) = folder.steps := by
  have hstays : stays "" = true := rfl
  rw [join, isAbsolute_of_notMem h.2, if_neg Bool.false_ne_true]
  split
  · next hend =>
    rw [Bool.or_eq_true, decide_eq_true_eq] at hend
    rcases hend with hempty | hslash
    · obtain ⟨text⟩ := folder
      obtain rfl : text = "" := String.isEmpty_iff.1 hempty
      refine ⟨[], ?_, ?_⟩
      · rw [String.empty_append, parts, splitAtSlashes_of_notMem h.2]
        exact congrArg (fun s => [s]) String.ofList_toList
      · rw [steps, parts]
        simp [splitAtSlashes, hstays]
    · obtain ⟨cs, hcs⟩ := List.getLast?_eq_some_iff.1 hslash
      refine ⟨(splitAtSlashes cs).map String.ofList, ?_, ?_⟩
      · rw [← parts_slash cs h.2]
        congr 2
        apply String.toList_injective
        rw [String.toList_append, hcs, String.toList_ofList, List.append_assoc]
        rfl
      · rw [steps, parts, hcs, splitAtSlashes_append_slash]
        simp [splitAtSlashes, hstays]
  · refine ⟨folder.parts, ?_, rfl⟩
    rw [show folder.parts = (splitAtSlashes folder.text.toList).map String.ofList from rfl,
      ← parts_slash folder.text.toList h.2]
    congr 2
    apply String.toList_injective
    simp

theorem steps_join (folder : Path) (h : IsStep name) :
    (folder.join ⟨name⟩).steps = folder.steps ++ [name] := by
  obtain ⟨before, hparts, hbefore⟩ := parts_join folder h
  rw [steps, hparts, List.filter_append, hbefore, List.filter_cons_of_pos (by rw [h.1]; rfl)]
  rfl

theorem isAbsolute_join (folder : Path) (h : IsStep name) :
    (folder.join ⟨name⟩).isAbsolute = folder.isAbsolute := by
  have hname := isAbsolute_of_notMem h.2
  rw [join, hname, if_neg Bool.false_ne_true]
  rw [isAbsolute] at hname
  obtain ⟨text⟩ := folder
  cases hchars : text.toList with
  | nil =>
    obtain rfl : text = "" := String.toList_eq_nil_iff.1 hchars
    simpa [isAbsolute] using hname
  | cons c cs =>
    split <;> simp [isAbsolute, hchars]

theorem text_join_ne (folder : Path) (h : IsStep name) : (folder.join ⟨name⟩).text ≠ "" := by
  have hne : name ≠ "" := fun he => absurd h.1 (by rw [he]; decide)
  rw [join, isAbsolute_of_notMem h.2, if_neg Bool.false_ne_true]
  split <;> simp [hne]

theorem descend_append (folder : Path) (names names' : List String) :
    folder.descend (names ++ names') = (folder.descend names).descend names' :=
  List.foldl_append

theorem steps_descend (folder : Path) (h : ∀ name ∈ names, IsStep name) :
    (folder.descend names).steps = folder.steps ++ names := by
  induction names generalizing folder with
  | nil => rw [List.append_nil]; rfl
  | cons name names ih =>
    obtain ⟨hname, hnames⟩ := List.forall_mem_cons.1 h
    change ((folder.join ⟨name⟩).descend names).steps = _
    rw [ih _ hnames, steps_join folder hname, List.append_assoc]
    rfl

theorem isAbsolute_descend (folder : Path) (h : ∀ name ∈ names, IsStep name) :
    (folder.descend names).isAbsolute = folder.isAbsolute := by
  induction names generalizing folder with
  | nil => rfl
  | cons name names ih =>
    obtain ⟨hname, hnames⟩ := List.forall_mem_cons.1 h
    change ((folder.join ⟨name⟩).descend names).isAbsolute = _
    rw [ih _ hnames, isAbsolute_join folder hname]

theorem descend_inj (folder : Path) (h : ∀ name ∈ names, IsStep name)
    (h' : ∀ name ∈ names', IsStep name) :
    folder.descend names = folder.descend names' ↔ names = names' := by
  refine ⟨fun heq => ?_, congrArg _⟩
  have hsteps := congrArg steps heq
  rw [steps_descend folder h, steps_descend folder h'] at hsteps
  exact List.append_cancel_left hsteps

theorem cut_append (hstem : stem ≠ "") (hending : '.' ∉ e.toList) (hup : stem ++ "." ++ e ≠ "..") :
    cut (stem ++ "." ++ e) = (stem, some e) := by
  have hchars : (stem ++ "." ++ e).toList.reverse
      = e.toList.reverse ++ '.' :: stem.toList.reverse := by simp
  have hplain : ∀ c ∈ e.toList.reverse, decide (c ≠ '.') = true := by
    intro c hc
    rw [decide_eq_true_eq]
    rintro rfl
    exact hending (List.mem_reverse.1 hc)
  have hspan : (e.toList.reverse ++ '.' :: stem.toList.reverse).span (· ≠ '.')
      = (e.toList.reverse, '.' :: stem.toList.reverse) := by
    rw [List.span_eq_takeWhile_dropWhile, List.takeWhile_append_of_pos hplain,
      List.dropWhile_append_of_pos hplain]
    simp
  obtain ⟨c, cs, hcs⟩ := List.exists_cons_of_ne_nil
    (mt List.reverse_eq_nil_iff.1 (mt String.toList_eq_nil_iff.1 hstem))
  rw [cut, hchars, hspan, hcs]
  dsimp only
  rw [if_neg hup, ← hcs, List.reverse_reverse, List.reverse_reverse, String.ofList_toList,
    String.ofList_toList]

theorem exists_of_ending? (h : ending? name = some e) :
    ∃ stem, stem ≠ "" ∧ '.' ∉ e.toList ∧ name = stem ++ "." ++ e := by
  have hchars := List.takeWhile_append_dropWhile (p := fun c => decide (c ≠ '.'))
    (l := name.toList.reverse)
  have hplain : '.' ∉ name.toList.reverse.takeWhile (fun c => decide (c ≠ '.')) := by
    intro hmem
    simpa using List.mem_takeWhile_imp hmem
  have hhead := List.head?_dropWhile_not (fun c => decide (c ≠ '.')) name.toList.reverse
  rw [ending?, cut, List.span_eq_takeWhile_dropWhile] at h
  dsimp only at h
  generalize name.toList.reverse.takeWhile (fun c => decide (c ≠ '.')) = ending at *
  generalize name.toList.reverse.dropWhile (fun c => decide (c ≠ '.')) = start at *
  split at h
  · cases h
  · cases h
  · next c cs hne =>
    split at h
    · cases h
    · obtain rfl := Option.some.inj h
      obtain rfl : c = '.' := by simpa using hhead
      refine ⟨String.ofList cs.reverse, ?_, ?_, ?_⟩
      · intro hempty
        exact hne (List.reverse_eq_nil_iff.1 (String.ofList_injective hempty))
      · rw [String.toList_ofList, List.mem_reverse]
        exact hplain
      · apply String.toList_injective
        have hname := congrArg List.reverse hchars
        rw [List.reverse_reverse] at hname
        simp [← hname]

theorem withEnding_append (hstem : stem ≠ "") (hending : '.' ∉ e.toList)
    (hup : stem ++ "." ++ e ≠ "..") (new : String) :
    withEnding (stem ++ "." ++ e) new = if stem = "." then ".." else stem ++ "." ++ new := by
  rw [withEnding, cut_append hstem hending hup]
  by_cases hdot : stem = "."
  · rw [if_pos hdot, hdot]
    rfl
  · rw [if_neg hdot]
    split
    · next h => exact absurd (Prod.mk.inj h).1 hdot
    · next h => rw [(Prod.mk.inj h).1]

end Criteria.Path
