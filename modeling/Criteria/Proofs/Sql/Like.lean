import Criteria.Proofs.Sql.Tokens
import Mathlib.Data.List.Infix

namespace Criteria

/-- What an operator that matches texts asks of a text. -/
def Operator.Finds (op : Operator) (v s : List Char) : Prop :=
  match op with
  | .contains => v <:+: s
  | .startsWith => v <+: s
  | .endsWith => v <:+ s
  | _ => False

/-- The operators that match texts. -/
def Operator.isMatch (op : Operator) : Bool := [contains, startsWith, endsWith].contains op

namespace Operator

variable {op : Operator} {v s : List Char}

theorem isMatch_eq_true (h : op.isMatch = true) :
    op = .contains ∨ op = .startsWith ∨ op = .endsWith := by
  simpa [isMatch] using h

theorem finds_self (h : op.isMatch = true) (v : List Char) : op.Finds v v := by
  rcases isMatch_eq_true h with rfl | rfl | rfl
  · exact List.infix_refl v
  · exact List.prefix_refl v
  · exact List.suffix_refl v

theorem Finds.subset (h : op.Finds v s) : v ⊆ s := by
  cases op
  case contains => exact List.IsInfix.subset h
  case startsWith => exact List.IsPrefix.subset h
  case endsWith => exact List.IsSuffix.subset h
  all_goals cases h

end Operator

namespace Sql

/-- Whether a text matches a pattern. -/
def like : List Char → List Char → Bool
  | [], s => s.isEmpty
  | c :: p, s =>
    if c = '%' then s.tails.any (like p)
    else match s with
      | [] => false
      | d :: s => (c = '_' || c = d) && like p s

def isWildcard (c : Char) : Bool := c = '%' || c = '_'

variable {p q s v : List Char} {c : Char}

theorem like_nil : like [] s = true ↔ s = [] := by rw [like, List.isEmpty_iff]

theorem like_percent : like ('%' :: p) s = true ↔ ∃ a b, s = a ++ b ∧ like p b = true := by
  rw [like.eq_def]
  simp only [if_true, List.any_eq_true]
  constructor
  · rintro ⟨b, hb, hp⟩
    obtain ⟨a, rfl⟩ := (List.mem_tails b s).1 hb
    exact ⟨a, b, rfl, hp⟩
  · rintro ⟨a, b, rfl, hp⟩
    exact ⟨b, (List.mem_tails b _).2 (List.suffix_append a b), hp⟩

theorem like_cons (hc : c ≠ '%') : like (c :: p) s = true ↔
    ∃ d t, s = d :: t ∧ (c = '_' ∨ c = d) ∧ like p t = true := by
  rw [like.eq_def]
  cases s with
  | nil => simp [hc]
  | cons d s => simp [hc]

theorem like_append : like (p ++ q) s = true ↔
    ∃ a b, s = a ++ b ∧ like p a = true ∧ like q b = true := by
  induction p generalizing s with
  | nil => simp [like_nil]
  | cons c p ih =>
    rw [List.cons_append]
    by_cases hc : c = '%'
    · subst hc
      simp only [like_percent, ih]
      constructor
      · rintro ⟨a, _, rfl, b, d, rfl, hb, hd⟩
        exact ⟨a ++ b, d, (List.append_assoc ..).symm, ⟨a, b, rfl, hb⟩, hd⟩
      · rintro ⟨_, d, rfl, ⟨a, b, rfl, hb⟩, hd⟩
        exact ⟨a, b ++ d, List.append_assoc .., b, d, rfl, hb, hd⟩
    · simp only [like_cons hc, ih]
      constructor
      · rintro ⟨e, _, rfl, he, a, b, rfl, ha, hb⟩
        exact ⟨e :: a, b, rfl, ⟨e, a, rfl, he, ha⟩, hb⟩
      · rintro ⟨_, b, rfl, ⟨e, a, rfl, he, ha⟩, hb⟩
        exact ⟨e, a ++ b, rfl, he, a, b, rfl, ha, hb⟩

theorem like_run (s : List Char) : like ['%'] s = true :=
  like_percent.2 ⟨s, [], (List.append_nil s).symm, like_nil.2 rfl⟩

theorem like_iff_eq (h : ∀ c ∈ p, isWildcard c = false) : like p s = true ↔ s = p := by
  induction p generalizing s with
  | nil => exact like_nil
  | cons c p ih =>
    obtain ⟨hc, hp⟩ := List.forall_mem_cons.1 h
    simp only [isWildcard, Bool.or_eq_false_iff, decide_eq_false_iff_not] at hc
    simp only [like_cons hc.1, ih hp, hc.2, false_or]
    constructor
    · rintro ⟨_, _, rfl, rfl, rfl⟩
      rfl
    · rintro rfl
      exact ⟨c, p, rfl, rfl, rfl⟩

theorem like_self (p : List Char) : like p p = true := by
  induction p with
  | nil => rfl
  | cons c p ih =>
    by_cases hc : c = '%'
    · subst hc
      exact like_percent.2 ⟨['%'], p, rfl, ih⟩
    · exact (like_cons hc).2 ⟨c, p, rfl, .inr rfl, ih⟩

theorem exists_like (p : List Char) :
    ∃ s, like p s = true ∧ ∀ c ∈ s, isWildcard c = false := by
  induction p with
  | nil => exact ⟨[], rfl, by simp⟩
  | cons c p ih =>
    obtain ⟨s, hs, hplain⟩ := ih
    by_cases hc : c = '%'
    · subst hc
      exact ⟨s, like_percent.2 ⟨[], s, rfl, hs⟩, hplain⟩
    · by_cases hu : c = '_'
      · exact ⟨'x' :: s, (like_cons hc).2 ⟨'x', s, rfl, .inl hu, hs⟩,
          List.forall_mem_cons.2 ⟨by decide, hplain⟩⟩
      · refine ⟨c :: s, (like_cons hc).2 ⟨c, s, rfl, .inr rfl, hs⟩,
          List.forall_mem_cons.2 ⟨?_, hplain⟩⟩
        simp [isWildcard, hc, hu]

/-- The pattern of an operator that matches texts. -/
def likePattern (op : Operator) (v : String) : String :=
  match op with
  | .contains => "%" ++ v ++ "%"
  | .startsWith => v ++ "%"
  | .endsWith => "%" ++ v
  | _ => v

theorem test_of_isMatch {op : Operator} (h : op.isMatch = true) (field : Option Field) (v : Value) :
    test field op v = .like (likePattern op v.plain) := by
  rcases Operator.isMatch_eq_true h with rfl | rfl | rfl <;> rfl

/-- A value is taken for a pattern: a text matches if the operator finds some text in it that the
value is matched by. -/
theorem like_likePattern {op : Operator} (h : op.isMatch = true) {v : String} :
    like (likePattern op v).toList s = true ↔
      ∃ u, like v.toList u = true ∧ op.Finds u s := by
  have hpercent : "%".toList = ['%'] := rfl
  rcases Operator.isMatch_eq_true h with rfl | rfl | rfl
  · simp only [likePattern, Operator.Finds, String.toList_append, hpercent, List.cons_append,
      List.nil_append, like_percent, like_append, like_run, and_true]
    constructor
    · rintro ⟨a, _, rfl, u, b, rfl, hu⟩
      exact ⟨u, hu, a, b, List.append_assoc ..⟩
    · rintro ⟨u, hu, a, b, rfl⟩
      exact ⟨a, u ++ b, List.append_assoc .., u, b, rfl, hu⟩
  · simp only [likePattern, Operator.Finds, String.toList_append, hpercent, like_append, like_run,
      and_true]
    constructor
    · rintro ⟨u, b, rfl, hu⟩
      exact ⟨u, hu, b, rfl⟩
    · rintro ⟨u, hu, b, rfl⟩
      exact ⟨u, b, rfl, hu⟩
  · simp only [likePattern, Operator.Finds, String.toList_append, hpercent, List.singleton_append,
      like_percent]
    constructor
    · rintro ⟨a, u, rfl, hu⟩
      exact ⟨u, hu, a, rfl⟩
    · rintro ⟨u, hu, a, rfl⟩
      exact ⟨a, u, rfl, hu⟩

/-- The pattern finds the value as it is and nothing else just if there are no wildcards in it. -/
theorem like_iff_finds {op : Operator} (h : op.isMatch = true) (v : String) :
    (∀ s, like (likePattern op v).toList s = true ↔ op.Finds v.toList s) ↔
      ∀ c ∈ v.toList, isWildcard c = false := by
  simp only [like_likePattern h]
  constructor
  · intro hfinds c hc
    obtain ⟨s, hs, hplain⟩ := exists_like v.toList
    have hfound : op.Finds v.toList s := (hfinds s).1 ⟨s, hs, Operator.finds_self h s⟩
    exact hplain c (hfound.subset hc)
  · intro hv s
    simp only [like_iff_eq hv, exists_eq_left]

theorem Clause.tokens_infix {t : Tree} {catalog : Catalog} {options : Options} {clause : Clause}
    (h : clause? t catalog options = some clause) :
    ∀ c ∈ t.conditions, (Sql.predicate catalog options c).tokens <:+: clause.tokens := by
  refine Group.render?_rec (P := fun clause cs =>
    ∀ c ∈ cs, (Sql.predicate catalog options c).tokens <:+: clause.tokens) ⟨?_, ?_, ?_⟩ ?_ h
  · intro _ clause cs rest _ hclause hs
    rw [rendering, tokens, Rendering.gather, List.forall_mem_append]
    refine ⟨fun c hc => (hclause c hc).trans (List.prefix_append ..).isInfix, ?_⟩
    suffices hafter : ∀ c ∈ _, (Sql.predicate catalog options c).tokens <:+: tokensAfter rest from
      fun c hc => (hafter c hc).trans (List.suffix_append ..).isInfix
    induction hs with
    | nil => simp
    | @cons p _ rest _ hp _ ih =>
      rw [tokensAfter, List.flatMap_cons, List.forall_mem_append]
      refine ⟨fun c hc => ?_, fun c hc => (ih c hc).trans (List.suffix_append ..).isInfix⟩
      have hfirst := (hp.2 c hc).trans (List.suffix_cons (.word p.1.name) p.2.tokens).isInfix
      exact hfirst.trans (List.prefix_append ..).isInfix
  · intro clause cs hclause c hc
    have hopening := (hclause c hc).trans (List.suffix_cons .opening clause.tokens).isInfix
    exact hopening.trans (List.prefix_append ..).isInfix
  · intro clause cs hclause c hc
    have hopening := (hclause c hc).trans (List.suffix_cons .opening clause.tokens).isInfix
    have hnot := hopening.trans (List.suffix_cons (.word "NOT") _).isInfix
    exact hnot.trans (List.prefix_append ..).isInfix
  · intro c _
    simp [rendering, tokens]

theorem exists_lex_infix {t : Tree} {c : Condition} (hc : c ∈ t.conditions) (catalog : Catalog)
    (options : Options) : ∃ ts, lex (compile t catalog options).toList = some ts ∧
      (predicate catalog options c).tokens <:+: ts := by
  have hne : clause? t catalog options ≠ none :=
    fun hnone => List.ne_nil_of_mem hc ((Group.render?_eq_none t).1 hnone)
  obtain ⟨clause, hclause⟩ := Option.ne_none_iff_exists'.1 hne
  exact ⟨clause.tokens, lex_of_clause? hclause, Clause.tokens_infix hclause c hc⟩

theorem tokens_of_isMatch {c : Condition} (h : c.operator.isMatch = true) (catalog : Catalog)
    (options : Options) : (predicate catalog options c).tokens =
      [(Column.ofName options.quoteAllIdentifiers c.field).token, .word "LIKE",
        .text (likePattern c.operator c.value.plain)] := by
  rw [predicate, Predicate.tokens, test_of_isMatch h]

end Sql

end Criteria
