import Criteria.Project.Compile
import Criteria.Proofs.Path

namespace Criteria.Project

variable {as bs cs names names' folders : List String} {a b stem stem' : String}
  {format format' : Export.Format}

theorem walksBefore_cons :
    walksBefore (a :: as) (b :: bs) ↔ a < b ∨ a = b ∧ walksBefore as bs := by
  rw [walksBefore]
  split
  · next h =>
    subst h
    exact ⟨fun hwalks => .inr ⟨rfl, hwalks⟩,
      fun h => (h.resolve_left (String.lt_irrefl a)).2⟩
  · next h =>
    rw [decide_eq_true_eq]
    exact ⟨.inl, fun hor => hor.resolve_right fun heq => h heq.1⟩

theorem walksBefore_trans (as bs cs : List String) (h : walksBefore as bs)
    (h' : walksBefore bs cs) : walksBefore as cs := by
  induction as generalizing bs cs with
  | nil => rfl
  | cons a as ih =>
    cases bs with
    | nil => cases h
    | cons b bs =>
      cases cs with
      | nil => cases h'
      | cons c cs =>
        rw [walksBefore_cons] at h h' ⊢
        rcases h with hlt | ⟨rfl, h⟩
        · rcases h' with hlt' | ⟨rfl, -⟩
          · exact .inl (String.lt_trans hlt hlt')
          · exact .inl hlt
        · rcases h' with hlt' | ⟨rfl, h'⟩
          · exact .inl hlt'
          · exact .inr ⟨rfl, ih bs cs h h'⟩

theorem walksBefore_total (as bs : List String) : walksBefore as bs || walksBefore bs as := by
  induction as generalizing bs with
  | nil => rfl
  | cons a as ih =>
    cases bs with
    | nil => rfl
    | cons b bs =>
      rw [Bool.or_eq_true, walksBefore_cons, walksBefore_cons]
      have hrest := Bool.or_eq_true _ _ ▸ ih bs
      by_cases hlt : a < b
      · exact .inl (.inl hlt)
      · by_cases hgt : b < a
        · exact .inr (.inl hgt)
        · obtain rfl := String.le_antisymm (String.not_lt.1 hgt) (String.not_lt.1 hlt)
          exact hrest.imp (fun h => .inr ⟨rfl, h⟩) fun h => .inr ⟨rfl, h⟩

theorem walksBefore_antisymm (h : walksBefore as bs) (h' : walksBefore bs as) : as = bs := by
  induction as generalizing bs with
  | nil =>
    cases bs with
    | nil => rfl
    | cons b bs => cases h'
  | cons a as ih =>
    cases bs with
    | nil => cases h
    | cons b bs =>
      rw [walksBefore_cons] at h h'
      rcases h with hlt | ⟨rfl, h⟩
      · rcases h' with hgt | ⟨rfl, -⟩
        · exact absurd hgt (String.lt_asymm hlt)
        · exact absurd hlt (String.lt_irrefl _)
      · rcases h' with hgt | ⟨-, h'⟩
        · exact absurd hgt (String.lt_irrefl _)
        · rw [ih h h']

theorem walksBefore_refl (as : List String) : walksBefore as as :=
  (Bool.or_self _).symm.trans (walksBefore_total as as)

theorem walksBefore_append (folders : List String) (h : a < b) :
    walksBefore (folders ++ [a]) (folders ++ [b]) := by
  induction folders with
  | nil => exact walksBefore_cons.2 (.inl h)
  | cons f folders ih => exact walksBefore_cons.2 (.inr ⟨rfl, ih⟩)

theorem not_walksBefore_append (folders : List String) (h : a < b) :
    ¬ walksBefore (folders ++ [b]) (folders ++ [a]) := by
  intro hback
  have hsame := walksBefore_antisymm (walksBefore_append folders h) hback
  obtain rfl := List.singleton_inj.1 (List.append_cancel_left hsame)
  exact String.lt_irrefl a h

/-- The names that lead from the output folder to the file for a tree in a format. -/
def outputNames (names : List String) (format : Export.Format) : List String :=
  names.dropLast ++ [Path.withEnding (names.getLastD "") format.extension]

theorem outputPath_eq (outDir : Path) (names : List String) (format : Export.Format) :
    outputPath outDir names format = outDir.descend (outputNames names format) :=
  (Path.descend_append outDir names.dropLast
    [Path.withEnding (names.getLastD "") format.extension]).symm

theorem exists_of_maybeTree (h : maybeTree names) :
    ∃ folders stem, stem ≠ "" ∧ names = folders ++ [stem ++ ".json"] := by
  rw [maybeTree] at h
  split at h
  · next name hname =>
    rw [Bool.and_eq_true, decide_eq_true_eq] at h
    obtain ⟨folders, rfl⟩ := List.getLast?_eq_some_iff.1 hname
    obtain ⟨stem, hstem, -, rfl⟩ := Path.exists_of_ending? h.1
    exact ⟨folders, stem, hstem, by rw [String.append_assoc]; rfl⟩
  · cases h

theorem getLast?_append_extension (stem : String) (format : Export.Format) :
    (stem ++ "." ++ format.extension).toList.getLast? ≠ some '.' := by
  cases format <;> simp [Export.Format.extension]

theorem append_extension_ne_up (stem : String) (format : Export.Format) :
    stem ++ "." ++ format.extension ≠ ".." :=
  fun h => getLast?_append_extension stem format (by rw [h]; rfl)

theorem append_json (stem : String) :
    stem ++ ".json" = stem ++ "." ++ Export.Format.json.extension := by
  rw [String.append_assoc]
  rfl

theorem outputNames_append (hstem : stem ≠ "") (folders : List String) (format : Export.Format) :
    outputNames (folders ++ [stem ++ ".json"]) format
      = folders ++ [if stem = "." then ".." else stem ++ "." ++ format.extension] := by
  rw [outputNames, List.dropLast_concat, List.getLastD_concat, append_json,
    Path.withEnding_append hstem (by decide) (append_extension_ne_up stem .json)]

/-- Only the filter of one name and the JSON of another one can have the same name. -/
theorem append_extension_inj :
    stem ++ "." ++ format.extension = stem' ++ "." ++ format'.extension ↔
      stem = stem' ∧ format = format' ∨
        format = .mongo ∧ format' = .json ∧ stem' = stem ++ ".mongo" ∨
        format = .json ∧ format' = .mongo ∧ stem = stem' ++ ".mongo" := by
  have hmongo (s : String) : s ++ "." ++ "mongo.json" = s ++ ".mongo" ++ "." ++ "json" := by
    simp only [String.append_assoc]
    rfl
  constructor
  · intro h
    -- read backwards, the endings are told apart by their first letters, but for two
    have hback := congrArg (fun s => s.toList.reverse) h
    cases format <;> cases format'
    case mongo.json =>
      rw [Export.Format.extension, hmongo] at h
      have hstem := (String.append_left_inj _).1 ((String.append_left_inj _).1 h)
      exact .inr (.inl ⟨rfl, rfl, hstem.symm⟩)
    case json.mongo =>
      rw [Export.Format.extension, Export.Format.extension, hmongo] at h
      have hstem := (String.append_left_inj _).1 ((String.append_left_inj _).1 h)
      exact .inr (.inr ⟨rfl, rfl, hstem⟩)
    case readable.readable | sql.sql | mongo.mongo | json.json =>
      exact .inl ⟨(String.append_left_inj _).1 ((String.append_left_inj _).1 h), rfl⟩
    all_goals simp [Export.Format.extension] at hback
  · rintro (⟨rfl, rfl⟩ | ⟨rfl, rfl, rfl⟩ | ⟨rfl, rfl, rfl⟩)
    · rfl
    · exact hmongo stem
    · exact (hmongo stem').symm

/-- Whether the JSON of one file goes where the filter of another one does: a.mongo.json is such a
file for a.json. -/
def TreeFile.Covers (g f : TreeFile) : Prop := g.names = outputNames f.names .mongo

instance (g f : TreeFile) : Decidable (g.Covers f) := inferInstanceAs (Decidable (_ = _))

theorem outputNames_json (h : maybeTree names) (hup : names.getLast? ≠ some "..json") :
    outputNames names .json = names := by
  obtain ⟨folders, stem, hstem, rfl⟩ := exists_of_maybeTree h
  have hdot : stem ≠ "." := by
    rintro rfl
    exact hup List.getLast?_concat
  rw [outputNames_append hstem, if_neg hdot, append_json]

theorem outputNames_up (h : maybeTree names) (hup : names.getLast? = some "..json") :
    outputNames names format = names.dropLast ++ [".."] := by
  obtain ⟨folders, stem, hstem, rfl⟩ := exists_of_maybeTree h
  rw [List.getLast?_concat, Option.some.injEq] at hup
  obtain rfl : stem = "." := (String.append_left_inj ".json").1 hup
  rw [outputNames_append hstem, if_pos rfl, List.dropLast_concat]

theorem getLast?_outputNames_mongo (h : maybeTree names)
    (hcovers : names' = outputNames names .mongo) : names'.getLast? ≠ some "..json" := by
  intro hup
  obtain ⟨folders, stem, hstem, rfl⟩ := exists_of_maybeTree h
  rw [outputNames_append hstem] at hcovers
  rw [hcovers, List.getLast?_concat, Option.some.injEq] at hup
  split at hup
  · exact absurd hup (by decide)
  · have hjson : stem ++ "." ++ Export.Format.mongo.extension
        = "." ++ "." ++ Export.Format.json.extension := hup
    rcases append_extension_inj.1 hjson with ⟨-, h⟩ | ⟨-, -, h⟩ | ⟨h, -⟩
    · cases h
    · have hlast := congrArg (fun s => s.toList.getLast?) h
      simp at hlast
    · cases h

theorem outputNames_eq_iff (h : maybeTree names) (h' : maybeTree names') :
    outputNames names format = outputNames names' format' ↔
      names = names' ∧ (format = format' ∨ names.getLast? = some "..json") ∨
        format = .mongo ∧ format' = .json ∧ names' = outputNames names .mongo ∨
        format = .json ∧ format' = .mongo ∧ names = outputNames names' .mongo := by
  constructor
  · obtain ⟨folders, stem, hstem, rfl⟩ := exists_of_maybeTree h
    obtain ⟨folders', stem', hstem', rfl⟩ := exists_of_maybeTree h'
    rw [outputNames_append hstem, outputNames_append hstem', outputNames_append hstem,
      outputNames_append hstem']
    intro heq
    obtain ⟨rfl, hname⟩ := List.append_inj' heq rfl
    have hname := List.singleton_inj.1 hname
    split at hname
    · next hdot =>
      split at hname
      · next hdot' =>
        subst hdot hdot'
        exact .inl ⟨rfl, .inr List.getLast?_concat⟩
      · exact absurd hname.symm (append_extension_ne_up stem' format')
    · next hdot =>
      split at hname
      · exact absurd hname (append_extension_ne_up stem format)
      · next hdot' =>
        rw [if_neg hdot, if_neg hdot']
        rcases append_extension_inj.1 hname with ⟨rfl, rfl⟩ | ⟨rfl, rfl, rfl⟩ | ⟨rfl, rfl, rfl⟩
        · exact .inl ⟨rfl, .inl rfl⟩
        · exact .inr (.inl ⟨rfl, rfl, by rw [hname, append_json]⟩)
        · exact .inr (.inr ⟨rfl, rfl, by rw [← hname, append_json]⟩)
  · rintro (⟨rfl, rfl | hup⟩ | ⟨rfl, rfl, hcovers⟩ | ⟨rfl, rfl, hcovers⟩)
    · rfl
    · rw [outputNames_up h hup, outputNames_up h hup]
    · rw [outputNames_json h' (getLast?_outputNames_mongo h hcovers), ← hcovers]
    · rw [outputNames_json h (getLast?_outputNames_mongo h' hcovers), ← hcovers]

theorem not_walksBefore_of_covers (h : maybeTree names) (h' : maybeTree names')
    (hcovers : names' = outputNames names .mongo) : ¬ walksBefore names' names := by
  obtain ⟨folders, stem, hstem, rfl⟩ := exists_of_maybeTree h
  rw [outputNames_append hstem] at hcovers
  split at hcovers
  · obtain ⟨folders', stem', -, rfl⟩ := exists_of_maybeTree h'
    have hname := List.singleton_inj.1 (List.append_inj' hcovers rfl).2
    rw [append_json] at hname
    exact absurd hname (append_extension_ne_up stem' .json)
  · rw [hcovers]
    apply not_walksBefore_append
    rw [String.lt_iff, String.append_assoc, String.toList_append, String.toList_append]
    exact List.append_left_lt (by decide)

theorem isName_append_extension (h : Path.IsName (stem ++ ".json")) (format : Export.Format) :
    Path.IsName (stem ++ "." ++ format.extension) := by
  refine ⟨⟨?_, ?_⟩, append_extension_ne_up stem format⟩
  · rw [Path.stays, Bool.or_eq_false_iff, decide_eq_false_iff_not, decide_eq_false_iff_not]
    refine ⟨fun hempty => ?_, fun hdot => ?_⟩
    · have hdot := (String.append_eq_empty_iff.1 (String.append_eq_empty_iff.1 hempty).1).2
      exact absurd hdot (by decide)
    · exact getLast?_append_extension stem format (by rw [hdot]; rfl)
  · have hstem : '/' ∉ stem.toList :=
      fun hmem => h.1.2 (String.toList_append ▸ List.mem_append_left _ hmem)
    cases format <;> simp [Export.Format.extension, hstem]

theorem isName_outputNames (h : maybeTree names) (hnames : ∀ name ∈ names, Path.IsName name)
    (hup : names.getLast? ≠ some "..json") (format : Export.Format) :
    ∀ name ∈ outputNames names format, Path.IsName name := by
  obtain ⟨folders, stem, hstem, rfl⟩ := exists_of_maybeTree h
  obtain ⟨hfolders, hlast⟩ := List.forall_mem_append.1 hnames
  have hdot : stem ≠ "." := by
    rintro rfl
    exact hup List.getLast?_concat
  rw [outputNames_append hstem, if_neg hdot]
  refine List.forall_mem_append.2 ⟨hfolders, ?_⟩
  intro name hname
  obtain rfl := List.mem_singleton.1 hname
  exact isName_append_extension (hlast _ List.mem_cons_self) format

theorem isStep_outputNames (h : maybeTree names) (hnames : ∀ name ∈ names, Path.IsName name)
    (format : Export.Format) : ∀ name ∈ outputNames names format, Path.IsStep name := by
  by_cases hup : names.getLast? = some "..json"
  · rw [outputNames_up h hup]
    refine List.forall_mem_append.2 ⟨?_, ?_⟩
    · exact fun name hname => (hnames name (List.dropLast_subset _ hname)).1
    · intro name hname
      obtain rfl := List.mem_singleton.1 hname
      decide
  · exact fun name hname => (isName_outputNames h hnames hup format name hname).1

theorem outputNames_ne_nil (names : List String) (format : Export.Format) :
    outputNames names format ≠ [] := by
  simp [outputNames]

end Criteria.Project
