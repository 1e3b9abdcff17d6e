import Criteria.Proofs.Catalog.Merge
import Mathlib.Data.List.Nodup

namespace Criteria

namespace Field

variable {f : Field} {o : FieldOption} {os ps : List FieldOption} {value : String}

/-- The options with a value that a field does not have, the first one for each value. -/
def newOptions (f : Field) (os : List FieldOption) : List FieldOption :=
  (os.filter fun o => (f.option? o.value).isNone).eraseDupsBy fun o p => o.value = p.value

theorem addOption_of_known (h : (f.option? o.value).isSome = true) : f.addOption o = f := if_pos h

theorem addOption_of_new (h : f.option? o.value = none) :
    f.addOption o = { f with options := f.options ++ [o] } := by
  rw [addOption, h]
  rfl

theorem option?_addOption (f : Field) (o : FieldOption) (value : String) :
    (f.addOption o).option? value = (f.option? value).or ([o].find? (·.value = value)) := by
  cases h : f.option? o.value with
  | none =>
    rw [addOption_of_new h, option?, List.find?_append]
    rfl
  | some p =>
    rw [addOption_of_known (Option.isSome_of_eq_some h)]
    by_cases hv : o.value = value
    · rw [← hv, h, Option.some_or]
    · rw [List.find?_cons_of_neg (by simpa using hv), List.find?_nil, Option.or_none]

theorem newOptions_cons_of_known (h : (f.option? o.value).isSome = true) :
    f.newOptions (o :: os) = f.newOptions os := by
  rw [newOptions, newOptions, List.filter_cons_of_neg (by simpa [Option.isSome_iff_ne_none] using h)]

theorem newOptions_cons_of_new (h : f.option? o.value = none) :
    f.newOptions (o :: os) = o :: (f.addOption o).newOptions os := by
  have hfilter : ((os.filter fun p => (f.option? p.value).isNone).filter fun p =>
      decide (p.value = o.value) = false) =
        os.filter fun p => ((f.addOption o).option? p.value).isNone := by
    rw [List.filter_filter]
    refine List.filter_congr fun p _ => ?_
    rw [option?_addOption]
    by_cases hp : p.value = o.value
    · simp [hp]
    · simp [hp, Ne.symm hp]
  rw [newOptions, List.filter_cons_of_pos (by simpa using h), List.eraseDupsBy_cons, hfilter]
  rfl

theorem foldl_addOption (f : Field) (os : List FieldOption) :
    os.foldl addOption f = { f with options := f.options ++ f.newOptions os } := by
  induction os generalizing f with
  | nil =>
    rw [newOptions]
    simp
  | cons o os ih =>
    rw [List.foldl_cons, ih]
    cases h : f.option? o.value with
    | none =>
      rw [newOptions_cons_of_new h, addOption_of_new h]
      simp
    | some p =>
      have hknown := Option.isSome_of_eq_some h
      rw [newOptions_cons_of_known hknown, addOption_of_known hknown]

theorem option?_foldl_addOption (f : Field) (os : List FieldOption) (value : String) :
    (os.foldl addOption f).option? value = (f.option? value).or (os.find? (·.value = value)) := by
  induction os generalizing f with
  | nil => rw [List.foldl_nil, List.find?_nil, Option.or_none]
  | cons o os ih =>
    rw [List.foldl_cons, ih, option?_addOption, Option.or_assoc, ← List.find?_append]
    rfl

theorem option?_eq_none : f.option? value = none ↔ value ∉ f.options.map (·.value) := by
  simp [option?, List.find?_eq_none]

theorem nodup_addOption (h : (f.options.map (·.value)).Nodup) (o : FieldOption) :
    ((f.addOption o).options.map (·.value)).Nodup := by
  cases ho : f.option? o.value with
  | none =>
    rw [addOption_of_new ho, List.map_append, List.map_singleton, ← List.concat_eq_append]
    exact List.Nodup.concat (option?_eq_none.1 ho) h
  | some p =>
    rw [addOption_of_known (Option.isSome_of_eq_some ho)]
    exact h

theorem nodup_foldl_addOption (h : (f.options.map (·.value)).Nodup) (os : List FieldOption) :
    ((os.foldl addOption f).options.map (·.value)).Nodup := by
  induction os generalizing f with
  | nil => exact h
  | cons o os ih => exact ih (nodup_addOption h o)

/-- What a field has become once options have been merged into it. -/
structure Merged (f : Field) (os : List FieldOption) (g : Field) : Prop where
  same : g = { f with options := f.options ++ f.newOptions os }
  first : ∀ value, g.option? value = (f.option? value).or (os.find? (·.value = value))
  present : ∀ o ∈ os, (g.option? o.value).isSome
  nodup : (f.options.map (·.value)).Nodup → (g.options.map (·.value)).Nodup

theorem isSome_option?_foldl (f : Field) (h : o ∈ os) :
    ((os.foldl addOption f).option? o.value).isSome := by
  rw [option?_foldl_addOption, Option.isSome_or, Bool.or_eq_true, List.find?_isSome]
  exact .inr ⟨o, h, decide_eq_true rfl⟩

theorem merged_foldl_addOption (f : Field) (os : List FieldOption) :
    f.Merged os (os.foldl addOption f) :=
  ⟨foldl_addOption f os, option?_foldl_addOption f os, fun _ => isSome_option?_foldl f,
    fun h => nodup_foldl_addOption h os⟩

theorem foldl_addOption_of_known (h : ∀ o ∈ os, (f.option? o.value).isSome) :
    os.foldl addOption f = f := by
  induction os with
  | nil => rfl
  | cons o os ih =>
    obtain ⟨ho, hos⟩ := List.forall_mem_cons.1 h
    rw [List.foldl_cons, addOption_of_known ho, ih hos]

theorem foldl_addOption_again (f : Field) (os : List FieldOption) :
    os.foldl addOption (os.foldl addOption f) = os.foldl addOption f :=
  foldl_addOption_of_known fun _ => isSome_option?_foldl f

end Field

namespace Catalog

variable {c d : Catalog} {name : String} {page : OptionPage} {change change' : Field → Field}
  {fs : List Field}

theorem mergeOptions?_of_exists (h : ∃ f ∈ c.fields, f.name = name) (page : OptionPage) :
    c.mergeOptions? name page =
      some ⟨modifyFirst name (fun f => page.options.foldl Field.addOption f) c.fields⟩ := by
  obtain ⟨f, hf, hname⟩ := h
  exact if_pos (List.find?_isSome.2 ⟨f, hf, decide_eq_true hname⟩)

theorem mergeOptions?_eq_none :
    c.mergeOptions? name page = none ↔ ∀ f ∈ c.fields, f.name ≠ name := by
  constructor
  · intro h f hf hname
    cases (mergeOptions?_of_exists ⟨f, hf, hname⟩ page).symm.trans h
  · intro h
    refine if_neg fun hsome => ?_
    obtain ⟨f, hf, hname⟩ := List.find?_isSome.1 hsome
    exact h f hf (of_decide_eq_true hname)

/-- The change goes to the first field with the name. -/
theorem modifyFirst_split (change : Field → Field) (h : ∃ f ∈ fs, f.name = name) :
    ∃ before f after, fs = before ++ f :: after ∧ (∀ g ∈ before, g.name ≠ name) ∧ f.name = name ∧
      modifyFirst name change fs = before ++ change f :: after := by
  induction fs with
  | nil => simp at h
  | cons f fs ih =>
    rw [modifyFirst]
    by_cases hf : f.name = name
    · exact ⟨[], f, fs, rfl, by simp, hf, if_pos hf⟩
    · have hfs : ∃ f ∈ fs, f.name = name := by simpa [hf] using h
      obtain ⟨before, g, after, rfl, hbefore, hg, hmodify⟩ := ih hfs
      refine ⟨f :: before, g, after, rfl, List.forall_mem_cons.2 ⟨hf, hbefore⟩, hg, ?_⟩
      rw [if_neg hf, hmodify]
      rfl

theorem modifyFirst_modifyFirst (hname : ∀ f, (change f).name = f.name) (fs : List Field) :
    modifyFirst name change' (modifyFirst name change fs)
      = modifyFirst name (fun f => change' (change f)) fs := by
  induction fs with
  | nil => rfl
  | cons f fs ih =>
    by_cases hf : f.name = name
    · simp only [modifyFirst, hf, hname, if_true]
    · simp only [modifyFirst, hf, if_false, ih]

/-- Pages are merged one after another as if they were one. -/
theorem mergeOptions?_bind (c : Catalog) (name : String) (page later : OptionPage) (more : Bool) :
    (c.mergeOptions? name page).bind (·.mergeOptions? name later) =
      c.mergeOptions? name ⟨page.options ++ later.options, more⟩ := by
  by_cases h : ∃ f ∈ c.fields, f.name = name
  · obtain ⟨before, f, after, -, -, hf, hmodify⟩ :=
      modifyFirst_split (fun f => page.options.foldl Field.addOption f) h
    have hkept : ∀ f : Field, (page.options.foldl Field.addOption f).name = f.name :=
      fun f => (f.gains_foldl_addOption page.options).name_eq
    have hstill : ∃ g ∈ modifyFirst name (fun f => page.options.foldl Field.addOption f) c.fields,
        g.name = name := by
      rw [hmodify]
      exact ⟨_, by simp, (hkept f).trans hf⟩
    rw [mergeOptions?_of_exists h, Option.bind_some, mergeOptions?_of_exists hstill,
      mergeOptions?_of_exists h, modifyFirst_modifyFirst hkept]
    simp only [List.foldl_append]
  · have hnone : ∀ f ∈ c.fields, f.name ≠ name := fun f hf hname => h ⟨f, hf, hname⟩
    rw [mergeOptions?_eq_none.2 hnone, mergeOptions?_eq_none.2 hnone, Option.bind_none]

theorem mergeOptions?_again (c : Catalog) (name : String) (page : OptionPage) :
    (c.mergeOptions? name page).bind (·.mergeOptions? name page) = c.mergeOptions? name page := by
  rw [mergeOptions?_bind c name page page page.hasMore, mergeOptions?, mergeOptions?]
  simp only [List.foldl_append, Field.foldl_addOption_again]

end Catalog

/-- A page is merged unless no field has the name. Then the first field with the name keeps what it
has and gains the options of the page that have values new to it, the first one for each value, and
all other fields stay as they are. The same page adds nothing if it is merged again, and two pages
are merged one after the other as if they were one. -/
theorem merging_adds_new_values (c : Catalog) (name : String) (page : OptionPage) :
    (c.mergeOptions? name page = none ↔ ∀ f ∈ c.fields, f.name ≠ name) ∧
      (∀ d, c.mergeOptions? name page = some d → ∃ before f g after,
        c.fields = before ++ f :: after ∧ (∀ h ∈ before, h.name ≠ name) ∧ f.name = name ∧
          d.fields = before ++ g :: after ∧ f.Merged page.options g) ∧
      (c.mergeOptions? name page).bind (·.mergeOptions? name page) = c.mergeOptions? name page ∧
      ∀ (later : OptionPage) (more : Bool),
        (c.mergeOptions? name page).bind (·.mergeOptions? name later) =
          c.mergeOptions? name ⟨page.options ++ later.options, more⟩ := by
  refine ⟨Catalog.mergeOptions?_eq_none, ?_, c.mergeOptions?_again name page,
    c.mergeOptions?_bind name page⟩
  intro d hd
  have hex : ∃ f ∈ c.fields, f.name = name := by
    by_contra hnone
    cases (Catalog.mergeOptions?_eq_none.2 fun f hf hname => hnone ⟨f, hf, hname⟩).symm.trans hd
  obtain ⟨before, f, after, hfields, hbefore, hf, hmodify⟩ := Catalog.modifyFirst_split _ hex
  obtain rfl := Option.some.inj ((Catalog.mergeOptions?_of_exists hex page).symm.trans hd)
  exact ⟨before, f, _, after, hfields, hbefore, hf, hmodify, f.merged_foldl_addOption page.options⟩

/-- Two fields with one name, and a page with a known value and two options for a new one. -/
theorem merging_adds_new_values_repeated :
    let status (options : List FieldOption) : Field :=
      ⟨"status", "Status", .select, none, options, none⟩
    let c : Catalog := ⟨[status [⟨"closed", "Closed"⟩], status []]⟩
    let page : OptionPage := ⟨[⟨"new", "New"⟩, ⟨"closed", "Shut"⟩, ⟨"new", "Newer"⟩], true⟩
    let d : Catalog := ⟨[status [⟨"closed", "Closed"⟩, ⟨"new", "New"⟩], status []]⟩
    c.mergeOptions? "status" page = some d ∧ d.mergeOptions? "status" page = some d ∧
      ∃ before f g after, c.fields = before ++ f :: after ∧ d.fields = before ++ g :: after ∧
        f.Merged page.options g := by
  intro status c page d
  have hmerge : c.mergeOptions? "status" page = some d := rfl
  obtain ⟨-, hsplit, hagain, -⟩ := merging_adds_new_values c "status" page
  rw [hmerge, Option.bind_some] at hagain
  obtain ⟨before, f, g, after, hc, -, -, hd, hmerged⟩ := hsplit d hmerge
  exact ⟨hmerge, hagain, before, f, g, after, hc, hd, hmerged⟩

end Criteria
