import Criteria.Proofs.Catalog.Merge
import Criteria.Proofs.Document.Version
import Criteria.Proofs.Lint.Order

namespace Criteria

/-- A list from which some items have been taken, all of which may go. -/
inductive Thinned {α : Type} (MayGo : α → Prop) : List α → List α → Prop
  | nil : Thinned MayGo [] []
  | keep {new old : List α} (x : α) (h : Thinned MayGo new old) :
      Thinned MayGo (x :: new) (x :: old)
  | drop {new old : List α} {x : α} (hx : MayGo x) (h : Thinned MayGo new old) :
      Thinned MayGo new (x :: old)

namespace Thinned

variable {α β : Type} {MayGo : α → Prop} {new old new' old' : List α}

theorem refl (as : List α) : Thinned MayGo as as := by
  induction as with
  | nil => exact .nil
  | cons a as ih => exact .keep a ih

theorem of_eq (h : new = old) : Thinned MayGo new old := by
  rw [h]
  exact refl old

theorem append (h : Thinned MayGo new old) (h' : Thinned MayGo new' old') :
    Thinned MayGo (new ++ new') (old ++ old') := by
  induction h with
  | nil => exact h'
  | keep x _ ih => exact .keep x ih
  | drop hx _ ih => exact .drop hx ih

theorem flatMap {f g : β → List α} {bs : List β} (h : ∀ b ∈ bs, Thinned MayGo (f b) (g b)) :
    Thinned MayGo (bs.flatMap f) (bs.flatMap g) := by
  induction bs with
  | nil => exact .nil
  | cons b bs ih =>
    rw [List.forall_mem_cons] at h
    rw [List.flatMap_cons, List.flatMap_cons]
    exact h.1.append (ih h.2)

theorem imp {MayGo' : α → Prop} (hmay : ∀ x, MayGo x → MayGo' x) (h : Thinned MayGo new old) :
    Thinned MayGo' new old := by
  induction h with
  | nil => exact .nil
  | keep x _ ih => exact .keep x ih
  | drop hx _ ih => exact .drop (hmay _ hx) ih

theorem sublist (h : Thinned MayGo new old) : new.Sublist old := by
  induction h with
  | nil => exact .slnil
  | keep x _ ih => exact ih.cons_cons x
  | drop _ _ ih => exact ih.cons _

end Thinned

namespace Lint

variable {f g : Field} {o : Options} {catalog merged : Catalog} {path : List String}

/-- A finding of the rule on types about the node that a path leads to. -/
def IsTypeFinding (path : List String) (x : Finding) : Prop :=
  x.rule = valueTyped.name ∧ x.path = path ∧ x.nodeId = path.getLastD ""

/-- A finding of the rule on types about a condition on a field. -/
def IsTypeFindingOn (t : Tree) (field : String) (x : Finding) : Prop :=
  ∃ n : Occurrence, ∃ c, n.whole = t.toNode ∧ n.node = .condition c ∧ c.field = field ∧
    IsTypeFinding n.path x

theorem typeFault?_select (hf : f.type = .select) (v : Value) : typeFault? f v =
    if f.options.isEmpty || (f.option? v.plain).isSome then none
    else some ("'" ++ v.plain ++ "'" ++ " is not an option of " ++ ("'" ++ f.label ++ "'")) := by
  rw [typeFault?, hf]

/-- What is wrong with an item is the same as before, or nothing any more. A select field without
options takes any item, so it must have had some. -/
theorem typeFault?_of_gains (h : f.Gains g) (hf : f.type = .select → f.options ≠ []) (v : Value) :
    typeFault? g v = typeFault? f v ∨ typeFault? g v = none := by
  by_cases hselect : f.type = .select
  · have hempty : f.options.isEmpty = false := List.isEmpty_eq_false_iff.2 (hf hselect)
    rw [typeFault?_select hselect, typeFault?_select (h.type_eq.trans hselect), hempty,
      h.isEmpty_eq_false hempty, h.label_eq, Bool.false_or, Bool.false_or]
    by_cases hv : (f.option? v.plain).isSome
    · right
      rw [if_pos (h.isSome_option? hv)]
    · rw [if_neg hv]
      split
      · exact .inr rfl
      · exact .inl rfl
  · left
    obtain ⟨added, rfl⟩ := h
    cases htype : f.type with
    | select => exact absurd htype hselect
    | _ =>
      unfold typeFault?
      simp only [htype]

theorem typeFindings_of_gains (h : f.Gains g) (hf : f.type = .select → f.options ≠ [])
    (ctx : Context) (index : Nat) (vs : List Value) : Thinned (IsTypeFinding ctx.path)
      (typeFindings ctx g index vs) (typeFindings ctx f index vs) := by
  induction vs generalizing index with
  | nil => exact .nil
  | cons v vs ih =>
    rw [typeFindings, typeFindings]
    apply Thinned.append _ (ih (index + 1))
    rcases typeFault?_of_gains h hf v with hsame | hnone
    · rw [hsame]
      exact .refl _
    · rw [hnone]
      cases typeFault? f v with
      | none => exact .nil
      | some message => exact .drop ⟨rfl, rfl, rfl⟩ .nil

theorem condition_of_gains {r : Rule} (hr : r ∈ standardRules) (h : f.Gains g)
    (hf : f.type = .select → f.options ≠ []) (ctx : Context) (c : Condition) :
    Thinned (IsTypeFinding ctx.path) (r.condition ctx g c) (r.condition ctx f c) := by
  have htyped := typeFindings_of_gains h hf ctx 0
  obtain ⟨added, rfl⟩ := h
  simp only [standardRules, List.mem_cons, List.not_mem_nil, or_false] at hr
  rcases hr with rfl | rfl | rfl | rfl | rfl | rfl
  · exact .refl _
  · exact .refl _
  · simp only [valueTyped, Rule.onConditions]
    split
    · exact .nil
    · cases operands c.operator c.value with
      | error fault => cases fault <;> exact .refl _
      | ok vs => exact htyped vs
  · exact .refl _
  · exact .nil
  · exact .nil

theorem typeFindings_of_catalog (catalog merged : Catalog) (f : Field) (index : Nat)
    (vs : List Value) :
    typeFindings ⟨merged, path⟩ f index vs = typeFindings ⟨catalog, path⟩ f index vs := by
  induction vs generalizing index with
  | nil => rfl
  | cons v vs ih => rw [typeFindings, typeFindings, ih]

theorem condition_of_catalog {r : Rule} (hr : r ∈ standardRules) (catalog merged : Catalog)
    (f : Field) (c : Condition) :
    r.condition ⟨merged, path⟩ f c = r.condition ⟨catalog, path⟩ f c := by
  simp only [standardRules, List.mem_cons, List.not_mem_nil, or_false] at hr
  rcases hr with rfl | rfl | rfl | rfl | rfl | rfl
  · rfl
  · rfl
  · simp only [valueTyped, Rule.onConditions, typeFindings_of_catalog catalog merged]
  · rfl
  · rfl
  · rfl

theorem ranged?_of_gains (h : catalog.Gains merged) (c : Condition) :
    ranged? merged c = ranged? catalog c := by
  obtain ⟨change, hchange, hget⟩ := h c.field
  rw [ranged?, ranged?, hget]
  cases catalog.get? c.field with
  | none => rfl
  | some f =>
    have htype : (change f).type = f.type := (hchange f).type_eq
    simp only [Option.bind_eq_bind, Option.map_some, Option.bind_some, htype]

theorem contradiction_of_gains (h : catalog.Gains merged) (l r : Condition) :
    contradiction ⟨merged, path⟩ l r = contradiction ⟨catalog, path⟩ l r := by
  have hlabel : merged.label l.field = catalog.label l.field := h.label_eq l.field
  unfold contradiction
  dsimp only
  rw [hlabel]

theorem group_of_gains {r : Rule} (hr : r ∈ standardRules) (h : catalog.Gains merged)
    (group : Group) : r.group ⟨merged, path⟩ group = r.group ⟨catalog, path⟩ group := by
  rcases group_of_mem hr with rfl | rfl | hnil
  · have hranged : ranged? merged = ranged? catalog := funext (ranged?_of_gains h)
    simp only [satisfiable, Rule.onGroups, hranged, contradiction_of_gains h]
  · rfl
  · rw [hnil, hnil]

variable {field : String} {page : OptionPage}

theorem findingsAt_mergeOptions (ho : o.rules ⊆ standardRules)
    (hoptions : ∀ f, catalog.get? field = some f → f.type = .select → f.options ≠ [])
    {t : Tree} {n : Occurrence} (hn : n.whole = t.toNode) :
    Thinned (IsTypeFindingOn t field)
      (findingsAt o ((catalog.mergeOptions? field page).getD catalog) n.path n.node)
      (findingsAt o catalog n.path n.node) := by
  cases hnode : n.node with
  | group h children =>
    apply Thinned.of_eq
    rw [findingsAt, findingsAt]
    apply List.flatMap_congr
    intro r hr
    exact group_of_gains (ho (List.mem_of_mem_filter hr)) (catalog.gains_mergeOptions field page) _
  | condition c =>
    rw [findingsAt, findingsAt, catalog.get?_mergeOptions]
    cases hget : catalog.get? c.field with
    | none => exact .refl _
    | some f =>
      rw [Option.map_some]
      apply Thinned.flatMap
      intro r hr
      have hstandard : r ∈ standardRules := ho (List.mem_of_mem_filter hr)
      rw [condition_of_catalog hstandard catalog]
      split
      · next hfield =>
        have hon (x : Finding) (hx : IsTypeFinding n.path x) : IsTypeFindingOn t field x :=
          ⟨n, c, hn, hnode, hfield, hx⟩
        apply Thinned.imp hon
        exact condition_of_gains hstandard (f.gains_foldl_addOption page.options)
          (hoptions f (hfield ▸ hget)) ⟨catalog, n.path⟩ c
      · exact .refl _

/-- What is found in a tree stays, except for items of conditions on the field that have become
options. -/
theorem tree_mergeOptions (ho : o.rules ⊆ standardRules)
    (hoptions : ∀ f, catalog.get? field = some f → f.type = .select → f.options ≠ [])
    (page : OptionPage) (t : Tree) :
    Thinned (IsTypeFindingOn t field)
      (tree t ((catalog.mergeOptions? field page).getD catalog) o) (tree t catalog o) := by
  rw [tree_eq_flatMap, tree_eq_flatMap]
  apply Thinned.flatMap
  intro n hn
  exact findingsAt_mergeOptions ho hoptions (Node.mem_occurrences.1 hn)

end Lint

namespace Document

theorem findings_mergeOptions {d : Document} (hd : d.IsLinted) (field : String)
    (page : OptionPage) : (d.perform (.mergeOptions field page)).findings
      = Lint.tree d.tree ((d.catalog.mergeOptions? field page).getD d.catalog) d.lintOptions := by
  rw [perform, mergeOptions?]
  cases d.catalog.mergeOptions? field page with
  | none => exact hd
  | some catalog => rfl

end Document

open Lint

/-- Merging a page of options into a field adds no findings to a tree, provided that the field is no
select field or has an option already. The findings that it takes away are all of the rule on types
and about conditions on that field. So a valid tree stays valid, and so does a document, however it
has been worked on. -/
theorem merged_options_only_clear {o : Lint.Options} (ho : o.rules ⊆ standardRules)
    {catalog : Catalog} {field : String}
    (hoptions : ∀ f, catalog.get? field = some f → f.type = .select → f.options ≠ [])
    (page : OptionPage) (t : Tree) :
    let merged := (catalog.mergeOptions? field page).getD catalog
    (Lint.tree t merged o).Sublist (Lint.tree t catalog o) ∧
      Thinned (IsTypeFindingOn t field) (Lint.tree t merged o) (Lint.tree t catalog o) ∧
      (isValid t catalog = true → isValid t merged = true) ∧
      ∀ d : Document, d.IsNew → ∀ actions, (d.run actions).tree = t →
        (d.run actions).catalog = catalog → (d.run actions).lintOptions = o →
        (d.run actions).isValid = true →
          ((d.run actions).perform (.mergeOptions field page)).isValid = true := by
  intro merged
  have hthin := tree_mergeOptions ho hoptions page t
  have hall {new old : List Finding} (h : new.Sublist old) :
      (old.all fun x => !x.isError) = true → (new.all fun x => !x.isError) = true := by
    intro hold
    rw [List.all_eq_true] at hold ⊢
    intro x hx
    exact hold x (h.subset hx)
  refine ⟨hthin.sublist, hthin, ?_, ?_⟩
  · apply hall
    exact (tree_mergeOptions (List.Subset.refl standardRules) hoptions page t).sublist
  · rintro d hn actions rfl rfl rfl hvalid
    have hlinted : (d.run actions).IsLinted := Document.isLinted_run hn.isLinted actions
    rw [Document.isValid, hlinted] at hvalid
    rw [Document.isValid, Document.findings_mergeOptions hlinted]
    exact hall hthin.sublist hvalid

/-- Of two items that are no options the first becomes one, and the finding on the other stays. -/
theorem merged_options_only_clear_item :
    let catalog : Catalog := ⟨[⟨"s", "S", .select, none, [⟨"a", "A"⟩], none⟩]⟩
    let page : OptionPage := ⟨[⟨"a", "Again"⟩, ⟨"b", "B"⟩], false⟩
    let merged := (catalog.mergeOptions? "s" page).getD catalog
    let t : Tree :=
      ⟨⟨"r", .and, false, none⟩,
        [.condition ⟨"c", "s", .isIn, .list [.text "b", .text "z"], none⟩]⟩
    Lint.Options.standard.rules ⊆ standardRules ∧
      (∀ f, catalog.get? "s" = some f → f.type = .select → f.options ≠ []) ∧
      (Lint.tree t catalog .standard).map (·.id) = ["value-type:0:c", "value-type:1:c"] ∧
      (Lint.tree t merged .standard).map (·.id) = ["value-type:1:c"] ∧
      Thinned (IsTypeFindingOn t "s") (Lint.tree t merged .standard)
        (Lint.tree t catalog .standard) := by
  intro catalog page merged t
  have ho : Lint.Options.standard.rules ⊆ standardRules := List.Subset.refl _
  have hoptions (f : Field) (hf : catalog.get? "s" = some f) (_ : f.type = .select) :
      f.options ≠ [] := by
    cases hf
    exact List.cons_ne_nil _ _
  refine ⟨ho, hoptions, by decide +kernel, by decide +kernel, ?_⟩
  exact (merged_options_only_clear ho hoptions page t).2.1

end Criteria
