import Criteria.Export
import Criteria.Proofs.Rendering.Empty
import Criteria.Proofs.Sql.Row
import Criteria.Proofs.Tree.Lookup

namespace Criteria

/-- Conditions as texts, joined by the names of combinators, set in parentheses and negated by NOT.
-/
def Rendering.text (condition : Condition → String) : Rendering String where
  condition := condition
  join _ first rest := rest.foldl (fun text (c, part) => text ++ " " ++ c.name ++ " " ++ part) first
  nest text := "(" ++ text ++ ")"
  negate text := "NOT (" ++ text ++ ")"

theorem append_ne_empty {s : String} (h : s ≠ "") (u : String) : s ++ u ≠ "" :=
  fun he => h (String.append_eq_empty_iff.1 he).1

theorem Rendering.visible_text {condition : Condition → String} (h : ∀ c, condition c ≠ "") :
    (text condition).Visible "" where
  condition := h
  join {_ first} rest hfirst := by
    simp only [text]
    induction rest generalizing first with
    | nil => exact hfirst
    | cons p rest ih =>
      have hstart : first ++ (" " ++ (p.1.name ++ (" " ++ p.2))) ≠ "" := append_ne_empty hfirst _
      simp only [← String.append_assoc] at hstart
      exact ih hstart
  nest _ := append_ne_empty (append_ne_empty (by decide) _) _
  negate _ := append_ne_empty (append_ne_empty (by decide) _) _

namespace Readable

variable (catalog : Catalog) (options : Options)

theorem sentence_ne_empty (c : Condition) : sentence catalog options c ≠ "" := by
  have hstart : catalog.label c.field ++ " " ++ c.operator.phrase ≠ "" := by
    refine append_ne_empty (fun he => ?_) _
    exact absurd (String.append_eq_empty_iff.1 he).2 (by decide)
  rw [sentence]
  split
  · exact hstart
  · exact append_ne_empty (append_ne_empty hstart _) _

theorem visible_rendering : (rendering catalog options).Visible "" :=
  Rendering.visible_text (sentence_ne_empty catalog options)

theorem compile_eq_output (t : Tree) :
    compile t catalog options = t.output (rendering catalog options) "" :=
  (Group.output_eq (visible_rendering catalog options) t).symm

end Readable

namespace Sql

/-- Trees as SQL, put together as texts. -/
def textRendering (catalog : Catalog) (options : Options) : Rendering String :=
  .text fun c => (Clause.predicate (predicate catalog options c)).text

variable (catalog : Catalog) (options : Options)

theorem toList_text (c : Clause) : c.text.toList = c.chars := String.toList_ofList

theorem Clause.chars_nested (c : Clause) : (Clause.nested c).chars = '(' :: c.chars ++ [')'] :=
  Token.spaced_parentheses c.isLoose_tokens

theorem text_joined (first : Clause) (rest : List (Combinator × Clause)) :
    (Clause.joined first rest).text = (rest.map fun p => (p.1, p.2.text)).foldl
      (fun text (c, part) => text ++ " " ++ c.name ++ " " ++ part) first.text := by
  have hfold (ps : List (Combinator × String)) (s : String) :
      (ps.foldl (fun text (c, part) => text ++ " " ++ c.name ++ " " ++ part) s).toList =
        s.toList ++ ps.flatMap fun p => ' ' :: p.1.name.toList ++ ' ' :: p.2.toList := by
    induction ps generalizing s with
    | nil => simp
    | cons p ps ih => simp [ih]
  apply String.toList_injective
  rw [hfold, toList_text, toList_text, Clause.chars_joined, List.flatMap_map]
  simp only [toList_text]

theorem related_text : Rendering.Related (Clause.text · = ·) (Clause.text · = ·)
    (rendering catalog options) (textRendering catalog options) where
  join {c a b as bs} h hs := by
    subst h
    have hrest : (as.map fun p => (p.1, p.2.text)) = bs :=
      (Rendering.map_eq_of_forall₂ (k := id) hs).trans (List.map_id bs)
    rw [← hrest]
    exact text_joined a as
  nest {a b} h := by
    subst h
    apply String.toList_injective
    simp [rendering, textRendering, Rendering.text, toList_text, Clause.chars_nested]
  negate {a b} h := by
    subst h
    apply String.toList_injective
    simp [rendering, textRendering, Rendering.text, toList_text, Clause.chars_negated]

theorem spaced_ne_nil {ts : List Token} {t : Token} (ht : t ∈ ts) (hne : t.chars ≠ []) :
    Token.spaced ts ≠ [] := by
  induction ts with
  | nil => cases ht
  | cons u ts ih =>
    cases ts with
    | nil =>
      obtain rfl := List.mem_singleton.1 ht
      exact hne
    | cons v ts =>
      rw [Token.spaced]
      rcases List.mem_cons.1 ht with rfl | ht
      · simp [hne]
      · simp [ih ht]

theorem Predicate.text_ne_empty (p : Predicate) : (Clause.predicate p).text ≠ "" := by
  have hmem : ∃ t ∈ p.tokens, t.chars ≠ [] := by
    obtain ⟨column, test⟩ := p
    cases test with
    | compare c l =>
      refine ⟨.comparison c, by simp [tokens], ?_⟩
      cases c <;> exact List.cons_ne_nil _ _
    | like pattern => exact ⟨.word "LIKE", by simp [tokens], by decide⟩
    | blank | notBlank => exact ⟨.opening, List.mem_cons_self, by decide⟩
    | between negated low high => exact ⟨.word "BETWEEN", by simp [tokens], by decide⟩
    | among negated items => exact ⟨.word "IN", by simp [tokens], by decide⟩
  obtain ⟨t, ht, hne⟩ := hmem
  intro he
  have hchars := congrArg String.toList he
  rw [toList_text] at hchars
  exact spaced_ne_nil ht hne hchars

theorem visible_textRendering : (textRendering catalog options).Visible "" :=
  Rendering.visible_text fun _ => Predicate.text_ne_empty _

theorem compile_eq_output (t : Tree) :
    compile t catalog options = t.output (textRendering catalog options) "" := by
  rw [Group.output_eq (visible_textRendering catalog options), compile, clause?,
    Group.map_render? (related_text catalog options) fun c _ => rfl]

end Sql

namespace Mongo

/-- Trees as filters, put together as JSON. -/
def jsonRendering (catalog : Catalog) (options : Options) : Rendering Json where
  condition c := (condition catalog options c).toJson
  join default first rest :=
    match rest with
    | [] => first
    | rest =>
      let key := match (Combinator.uniform? (rest.map (·.1))).getD default with
        | .and => "$and"
        | .or => "$or"
      .object [(key, .list (first :: rest.map (·.2)))]
  nest := id
  negate j := .object [("$not", j)]

variable (catalog : Catalog) (options : Options)

theorem toJsons_eq (fs : List Filter) : Filter.toJsons fs = fs.map Filter.toJson := by
  induction fs with
  | nil => rfl
  | cons f fs ih => rw [Filter.toJsons, ih, List.map_cons]

theorem related_json : Rendering.Related (Filter.toJson · = ·) (Filter.toJson · = ·)
    (rendering catalog options) (jsonRendering catalog options) where
  join {c a b as bs} h hs := by
    subst h
    have hrest : (as.map fun p => (p.1, p.2.toJson)) = bs :=
      (Rendering.map_eq_of_forall₂ (k := id) hs).trans (List.map_id bs)
    subst hrest
    cases as with
    | nil => rfl
    | cons p as =>
      simp only [rendering, join, jsonRendering, List.map_cons, List.map_map, Function.comp_def]
      cases (Combinator.uniform? (p.1 :: as.map (·.1))).getD c <;>
        simp only [Filter.toJson, toJsons_eq, List.map_cons, List.map_map, Function.comp_def]
  nest h := h
  negate h := congrArg (fun j => Json.object [("$not", j)]) h

theorem toJson_ne_empty (f : Filter) : f.toJson ≠ .object [] := by
  cases f <;> simp [Filter.toJson]

theorem visible_jsonRendering : (jsonRendering catalog options).Visible (.object []) where
  condition _ := toJson_ne_empty _
  join rest h := by
    cases rest with
    | nil => exact h
    | cons p rest => simp [jsonRendering]
  nest h := h
  negate _ := by simp [jsonRendering]

theorem compile_eq_output (t : Tree) :
    compile t catalog options = t.output (jsonRendering catalog options) (.object []) := by
  rw [Group.output_eq (visible_jsonRendering catalog options), compile, filter?,
    Group.map_render? (related_json catalog options) fun c _ => rfl]

end Mongo

/-- In all formats, just the trees without conditions have an empty output, and these are the trees
that cannot be exported. That holds although each format tells a group to be without conditions by
nothing but its output. -/
theorem empty_output_iff_no_condition (t : Tree) (catalog : Catalog) (o : Export.Options) :
    (Readable.compile t catalog o.readable = "" ↔ t.conditions = []) ∧
      (Sql.compile t catalog o.sql = "" ↔ t.conditions = []) ∧
      (Mongo.compile t catalog o.mongo = .object [] ↔ t.conditions = []) ∧
      (Export.canExport t = false ↔ t.conditions = []) ∧
      Readable.compile t catalog o.readable =
        t.output (Readable.rendering catalog o.readable) "" ∧
      Sql.compile t catalog o.sql = t.output (Sql.textRendering catalog o.sql) "" ∧
      Mongo.compile t catalog o.mongo =
        t.output (Mongo.jsonRendering catalog o.mongo) (.object []) := by
  have hreadable := Readable.compile_eq_output catalog o.readable t
  have hsql := Sql.compile_eq_output catalog o.sql t
  have hmongo := Mongo.compile_eq_output catalog o.mongo t
  refine ⟨?_, ?_, ?_, ?_, hreadable, hsql, hmongo⟩
  · rw [hreadable]
    exact Group.output_eq_empty_iff (Readable.visible_rendering catalog o.readable) t
  · rw [hsql]
    exact Group.output_eq_empty_iff (Sql.visible_textRendering catalog o.sql) t
  · rw [hmongo]
    exact Group.output_eq_empty_iff (Mongo.visible_jsonRendering catalog o.mongo) t
  · rw [Export.canExport, decide_eq_false_iff_not, Nat.not_lt, Nat.le_zero, Group.conditionCount_eq,
      List.length_eq_zero_iff]

end Criteria
