import Criteria.Catalog

namespace Criteria

namespace Field

/-- The same field with some more options. -/
def Gains (f g : Field) : Prop := ∃ added, g = { f with options := f.options ++ added }

theorem gains_refl (f : Field) : f.Gains f := by
  refine ⟨[], ?_⟩
  rw [List.append_nil]

theorem Gains.trans {f g h : Field} (hfg : f.Gains g) (hgh : g.Gains h) : f.Gains h := by
  obtain ⟨added, rfl⟩ := hfg
  obtain ⟨more, rfl⟩ := hgh
  refine ⟨added ++ more, ?_⟩
  rw [List.append_assoc]

theorem gains_addOption (f : Field) (o : FieldOption) : f.Gains (f.addOption o) := by
  rw [addOption]
  split
  · exact f.gains_refl
  · exact ⟨[o], rfl⟩

theorem gains_foldl_addOption (f : Field) (os : List FieldOption) :
    f.Gains (os.foldl addOption f) := by
  induction os generalizing f with
  | nil => exact f.gains_refl
  | cons o os ih => exact (f.gains_addOption o).trans (ih (f.addOption o))

theorem Gains.name_eq {f g : Field} (h : f.Gains g) : g.name = f.name := by
  obtain ⟨added, rfl⟩ := h
  rfl

theorem Gains.label_eq {f g : Field} (h : f.Gains g) : g.label = f.label := by
  obtain ⟨added, rfl⟩ := h
  rfl

theorem Gains.type_eq {f g : Field} (h : f.Gains g) : g.type = f.type := by
  obtain ⟨added, rfl⟩ := h
  rfl

theorem Gains.isEmpty_eq_false {f g : Field} (h : f.Gains g) (hf : f.options.isEmpty = false) :
    g.options.isEmpty = false := by
  obtain ⟨added, rfl⟩ := h
  rw [List.isEmpty_eq_false_iff] at hf ⊢
  exact List.append_ne_nil_of_left_ne_nil hf added

theorem Gains.isSome_option? {f g : Field} (h : f.Gains g) {s : String}
    (hs : (f.option? s).isSome) : (g.option? s).isSome := by
  obtain ⟨added, rfl⟩ := h
  rw [option?] at hs
  rw [option?, List.find?_append, Option.isSome_or, hs, Bool.true_or]

end Field

namespace Catalog

variable {c : Catalog} {name : String} {page : OptionPage}

theorem find?_modifyFirst {change : Field → Field} (hname : ∀ f, (change f).name = f.name)
    (fs : List Field) (other : String) :
    (modifyFirst name change fs).find? (·.name = other)
      = (fs.find? (·.name = other)).map fun f => if other = name then change f else f := by
  induction fs with
  | nil => rfl
  | cons f fs ih =>
    rw [modifyFirst]
    by_cases hf : f.name = name
    · rw [if_pos hf]
      by_cases hother : f.name = other
      · have heq : other = name := hother.symm.trans hf
        rw [List.find?_cons_of_pos (by simpa [hname] using hother),
          List.find?_cons_of_pos (by simpa using hother), Option.map_some, if_pos heq]
      · have hne : other ≠ name := fun h => hother (hf.trans h.symm)
        rw [List.find?_cons_of_neg (by simpa [hname] using hother),
          List.find?_cons_of_neg (by simpa using hother)]
        simp only [if_neg hne, Option.map_id']
    · rw [if_neg hf]
      by_cases hother : f.name = other
      · have hne : other ≠ name := fun h => hf (hother.trans h)
        rw [List.find?_cons_of_pos (by simpa using hother),
          List.find?_cons_of_pos (by simpa using hother), Option.map_some, if_neg hne]
      · rw [List.find?_cons_of_neg (by simpa using hother),
          List.find?_cons_of_neg (by simpa using hother), ih]

theorem get?_mergeOptions (c : Catalog) (name : String) (page : OptionPage) (other : String) :
    ((c.mergeOptions? name page).getD c).get? other
      = (c.get? other).map fun f =>
          if other = name then page.options.foldl Field.addOption f else f := by
  rw [mergeOptions?]
  split
  · rw [Option.getD_some, get?, get?]
    apply find?_modifyFirst
    intro f
    exact (f.gains_foldl_addOption page.options).name_eq
  · next hnone =>
    rw [Option.getD_none]
    cases hget : c.get? other with
    | none => rfl
    | some f =>
      have hne : other ≠ name := by
        rintro rfl
        rw [hget] at hnone
        exact hnone rfl
      rw [Option.map_some, if_neg hne]

/-- A catalog in which a search finds the same fields, but for options that they have gained. -/
def Gains (c d : Catalog) : Prop :=
  ∀ name, ∃ change : Field → Field, (∀ f : Field, f.Gains (change f)) ∧
    d.get? name = (c.get? name).map change

theorem gains_mergeOptions (c : Catalog) (name : String) (page : OptionPage) :
    c.Gains ((c.mergeOptions? name page).getD c) := by
  intro other
  refine ⟨_, ?_, c.get?_mergeOptions name page other⟩
  intro f
  split
  · exact f.gains_foldl_addOption page.options
  · exact f.gains_refl

theorem Gains.label_eq {c d : Catalog} (h : c.Gains d) (name : String) :
    d.label name = c.label name := by
  obtain ⟨change, hchange, hget⟩ := h name
  have hlabel (f : Field) : (change f).label = f.label := (hchange f).label_eq
  rw [label, label, hget, Option.map_map, Function.comp_def]
  simp only [hlabel]

end Catalog

end Criteria
