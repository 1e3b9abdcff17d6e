import Criteria.Proofs.Sql.Meaning

namespace Criteria.Sql

namespace Grammar

theorem factor?_comparison (c : Comparison) (ts : List Symbol) :
    factor? (.token (.comparison c) :: ts) = none := by
  simp [factor?, predicate?, column?]

theorem factor?_keyword {k : Keyword} (h : k ≠ .not) (ts : List Symbol) :
    factor? (.keyword k :: ts) = none := by
  cases k <;> simp_all [factor?, predicate?, column?]

theorem factor?_keyword_cons (k : Keyword) {ts : List Symbol} (h : factor? ts = none) :
    factor? (.keyword k :: ts) = none := by
  by_cases hk : k = .not
  · simp only [hk, factor?, h, Option.bind_eq_bind, Option.bind_none]
  · exact factor?_keyword hk ts

theorem factor?_negation (negated : Bool) {k : Keyword} (h : k ≠ .not) (ts : List Symbol) :
    factor? ((Predicate.negation negated).map Token.symbol ++ .keyword k :: ts) = none := by
  have hnot : (Token.word "NOT").symbol = .keyword .not := Token.symbol_keyword .not
  cases negated with
  | false => exact factor?_keyword h ts
  | true =>
    rw [Predicate.negation, if_pos rfl, List.map_singleton, hnot]
    exact factor?_keyword_cons .not (factor?_keyword h ts)

theorem condition?_eq_none {ts : List Symbol} (h : factor? ts = none) : condition? ts = none := by
  rw [condition?_eq, term?_eq, h]
  rfl

theorem factor?_opening {ts : List Symbol} (h : condition? ts = none) :
    factor? (.token .opening :: ts) = none := by
  simp only [factor?, h, Option.bind_eq_bind, Option.bind_none]

/-- Whether a clause cannot be read where a factor may stand. -/
def IsNoFactor (c : Clause) : Prop := ∀ ts, factor? (c.tokens.map Token.symbol ++ ts) = none

/-- Whether a clause cannot be read where a whole condition may stand. -/
def IsNoCondition (c : Clause) : Prop := ∀ ts, condition? (c.tokens.map Token.symbol ++ ts) = none

theorem isNoFactor_keyword {p : Predicate} {k : Keyword}
    (hp : p.column.token.symbol = .keyword k) : IsNoFactor (.predicate p) := by
  intro ts
  obtain ⟨column, test⟩ := p
  replace hp : column.token.symbol = .keyword k := hp
  cases test with
  | compare c l =>
    change factor? (column.token.symbol :: .token (.comparison c) :: l.token.symbol :: ts) = _
    exact hp ▸ factor?_keyword_cons k (factor?_comparison c _)
  | like pattern =>
    change factor? (column.token.symbol :: .keyword .like :: .token (.text pattern) :: ts) = _
    exact hp ▸ factor?_keyword_cons k (factor?_keyword (by decide) _)
  | blank =>
    change factor? (.token .opening :: column.token.symbol :: .keyword .is :: .keyword .null ::
      .keyword .or :: column.token.symbol :: .token (.comparison .equal) :: .token (.text "") ::
      .token .closing :: ts) = _
    exact factor?_opening (condition?_eq_none
      (hp ▸ factor?_keyword_cons k (factor?_keyword (by decide) _)))
  | notBlank =>
    change factor? (.token .opening :: column.token.symbol :: .keyword .is :: .keyword .not ::
      .keyword .null :: .keyword .and :: column.token.symbol :: .token (.comparison .notEqual) ::
      .token (.text "") :: .token .closing :: ts) = _
    exact factor?_opening (condition?_eq_none
      (hp ▸ factor?_keyword_cons k (factor?_keyword (by decide) _)))
  | between negated low high =>
    have hbetween : (Token.word "BETWEEN").symbol = .keyword .between :=
      Token.symbol_keyword .between
    simp only [Clause.tokens, Predicate.tokens, List.cons_append, List.map_cons, List.map_append,
      List.append_assoc, hp, hbetween]
    exact factor?_keyword_cons k (factor?_negation negated (by decide) _)
  | among negated items =>
    have hin : (Token.word "IN").symbol = .keyword .isIn := Token.symbol_keyword .isIn
    simp only [Clause.tokens, Predicate.tokens, List.cons_append, List.map_cons, List.map_append,
      List.append_assoc, hp, hin]
    exact factor?_keyword_cons k (factor?_negation negated (by decide) _)

variable {c : Clause} {rest : List (Combinator × Clause)}

theorem moreTerms?_eq_none (hs : ∀ p ∈ rest, (∃ g, IsFactor p.2 g) ∨ IsNoFactor p.2)
    (h : ∃ p ∈ rest, IsNoFactor p.2) (f : Formula Atom) (ts : List Symbol) :
    ((moreFactors? f ((Clause.tokensAfter rest).map Token.symbol ++ ts)).bind
      fun p => moreTerms? p.1 p.2) = none := by
  induction rest generalizing f with
  | nil => exact absurd h (by simp)
  | cons p rest ih =>
    obtain ⟨k, c⟩ := p
    obtain ⟨hc, hs⟩ := List.forall_mem_cons.1 hs
    -- reading breaks off at the first member or, whatever is made of it, behind it
    have hrest (m : Formula Atom → Formula Atom) : ((factor? (c.tokens.map Token.symbol ++
        ((Clause.tokensAfter rest).map Token.symbol ++ ts))).bind fun p =>
          (moreFactors? (m p.1) p.2).bind fun p => moreTerms? p.1 p.2) = none := by
      by_cases hno : IsNoFactor c
      · rw [hno, Option.bind_none]
      · obtain ⟨g, hg⟩ := hc.resolve_right hno
        have hlater : ∃ p ∈ rest, IsNoFactor p.2 := by
          obtain ⟨p, hp, hpno⟩ := h
          rcases List.mem_cons.1 hp with rfl | hp
          · exact absurd hpno hno
          · exact ⟨p, hp, hpno⟩
        rw [hg, Option.bind_some]
        exact ih hs hlater (m g)
    cases k with
    | and =>
      have hand : (Token.word Combinator.and.name).symbol = .keyword .and :=
        Token.symbol_keyword .and
      simp only [Clause.tokensAfter, List.map_append, List.map_cons, List.cons_append,
        List.append_assoc, hand, moreFactors?_and, Option.bind_assoc]
      exact hrest (.and f)
    | or =>
      have hor : (Token.word Combinator.or.name).symbol = .keyword .or := Token.symbol_keyword .or
      have hcondition : condition? (c.tokens.map Token.symbol ++
          ((Clause.tokensAfter rest).map Token.symbol ++ ts)) = none := by
        rw [condition?_eq, term?_eq, Option.bind_assoc]
        exact hrest fun g => g
      simp only [Clause.tokensAfter, List.map_append, List.map_cons, List.cons_append,
        List.append_assoc, hor, moreFactors?, moreTerms?, Option.bind_some, hcondition,
        Option.bind_eq_bind, Option.bind_none]

theorem IsNoFactor.isNoCondition (h : IsNoFactor c) : IsNoCondition c :=
  fun ts => condition?_eq_none (h ts)

theorem IsNoCondition.nested (h : IsNoCondition c) : IsNoFactor (.nested c) := by
  intro ts
  have hc := factor?_opening (h (.token .closing :: ts))
  simpa only [Clause.tokens, List.map_append, List.map_cons, List.map_nil, List.cons_append,
    List.append_assoc, List.nil_append, Token.symbol_opening, Token.symbol_closing] using hc

theorem IsNoCondition.negated (h : IsNoCondition c) : IsNoFactor (.negated c) := by
  intro ts
  have hc := h.nested ts
  have hnot : (Token.word "NOT").symbol = .keyword .not := Token.symbol_keyword .not
  change factor? ((Token.word "NOT").symbol ::
    ((Clause.nested c).tokens.map Token.symbol ++ ts)) = _
  rw [hnot]
  exact factor?_keyword_cons .not hc

theorem IsNoFactor.joined_first (h : IsNoFactor c) : IsNoCondition (.joined c rest) := by
  intro ts
  rw [Clause.tokens, List.map_append, List.append_assoc]
  exact condition?_eq_none (h _)

theorem IsFactor.joined_rest {f : Formula Atom} (h : IsFactor c f)
    (hs : ∀ p ∈ rest, (∃ g, IsFactor p.2 g) ∨ IsNoFactor p.2)
    (hno : ∃ p ∈ rest, IsNoFactor p.2) : IsNoCondition (.joined c rest) := by
  intro ts
  rw [Clause.tokens, List.map_append, List.append_assoc, condition?_eq, term?_eq, h,
    Option.bind_some]
  exact moreTerms?_eq_none hs hno f ts

/-- Every clause of a tree can be read as a whole or not at all, and not at all if it has one of
certain conditions, as long as this holds of the conditions one by one. -/
theorem related_unreadable (catalog : Catalog) (options : Options) (bad : Condition → Prop) :
    Rendering.Related
      (fun c ds => ((∃ f, IsFactor c f) ∨ IsNoFactor c) ∧ ((∃ d ∈ ds, bad d) → IsNoFactor c))
      (fun c ds => ((∃ f, IsCondition c f) ∨ IsNoCondition c) ∧
        ((∃ d ∈ ds, bad d) → IsNoCondition c))
      (rendering catalog options) .gather where
  join := by
    intro _ c ds rest dss hc hs
    have hmembers : ∀ p ∈ rest, (∃ f, IsFactor p.2 f) ∨ IsNoFactor p.2 := by
      induction hs with
      | nil => exact fun p hp => absurd hp List.not_mem_nil
      | cons hp _ ih => exact List.forall_mem_cons.2 ⟨hp.2.1, ih⟩
    have hlater : (∃ d ∈ dss.flatMap (·.2), bad d) → ∃ p ∈ rest, IsNoFactor p.2 := by
      clear hmembers
      induction hs with
      | nil => simp
      | @cons p q rest dss hp _ ih =>
        rintro ⟨d, hd, hbad⟩
        rcases List.mem_append.1 hd with hd | hd
        · exact ⟨p, List.mem_cons_self, hp.2.2 ⟨d, hd, hbad⟩⟩
        · obtain ⟨p, hp, hno⟩ := ih ⟨d, hd, hbad⟩
          exact ⟨p, List.mem_cons_of_mem _ hp, hno⟩
    by_cases hfirst : IsNoFactor c
    · exact ⟨.inr hfirst.joined_first, fun _ => hfirst.joined_first⟩
    obtain ⟨f, hf⟩ := hc.1.resolve_right hfirst
    by_cases hno : ∃ p ∈ rest, IsNoFactor p.2
    · have hjoined := hf.joined_rest hmembers hno
      exact ⟨.inr hjoined, fun _ => hjoined⟩
    have hfactors : ∀ p ∈ rest, ∃ f, IsFactor p.2 f :=
      fun p hp => (hmembers p hp).resolve_right fun h => hno ⟨p, hp, h⟩
    have : Nonempty (Formula Atom) := ⟨f⟩
    choose! m hm using hfactors
    have hpairs : List.Forall₂ (fun p q => p.1 = q.1 ∧ IsFactor p.2 q.2) rest
        (rest.map fun p => (p.1, m p)) :=
      List.forall₂_map_right_iff.2 (List.forall₂_same.2 fun p hp => ⟨rfl, hm p hp⟩)
    have hread := hf.joined hpairs
    refine ⟨.inl ⟨_, hread⟩, ?_⟩
    rintro ⟨d, hd, hbad⟩
    rcases List.mem_append.1 hd with hd | hd
    · exact absurd (hc.2 ⟨d, hd, hbad⟩) hfirst
    · exact absurd (hlater ⟨d, hd, hbad⟩) hno
  nest h :=
    ⟨h.1.imp (fun ⟨f, hf⟩ => ⟨f, hf.nested⟩) IsNoCondition.nested, fun hbad => (h.2 hbad).nested⟩
  negate h :=
    ⟨h.1.imp (fun ⟨_, hf⟩ => ⟨_, hf.negated⟩) IsNoCondition.negated,
      fun hbad => (h.2 hbad).negated⟩

end Grammar

open Grammar

theorem isBare_of_ofWord? {s : String} {k : Keyword} (h : Keyword.ofWord? s = some k) :
    isBare s = true := by
  have hname : k.name.toList = s.toList.map Char.toUpper := by
    simpa using List.find?_some h
  have hletter {c : Char} (hc : c.toUpper.isUpper = true) : c.isAlphanum = true := by
    change (c.isUpper || c.isLower || c.isDigit) = true
    by_cases hlower : 'a'.val ≤ c.val ∧ c.val ≤ 'z'.val
    · have hc : c.isLower = true :=
        Bool.and_eq_true_iff.2 ⟨decide_eq_true hlower.1, decide_eq_true hlower.2⟩
      rw [hc, Bool.or_true, Bool.true_or]
    · have hsame : c.toUpper = c := dif_neg hlower
      rw [hsame] at hc
      rw [hc, Bool.true_or, Bool.true_or]
  have hne : s.isEmpty = false := by
    rw [Bool.eq_false_iff, ne_eq, String.isEmpty_iff]
    rintro rfl
    have hnil : k.name.toList = [] := hname
    revert hnil
    cases k <;> decide
  rw [isBare, hne, Bool.not_false, Bool.true_and, List.all_eq_true]
  intro c hc
  have hupper := k.isUpper_of_mem_name c.toUpper (hname ▸ List.mem_map_of_mem hc)
  simp [hletter hupper]

variable {t : Tree} {catalog : Catalog} {options : Options} {d : Condition} {k : Keyword}

theorem isNoFactor_predicate (hq : options.quoteAllIdentifiers = false)
    (hk : Keyword.ofWord? d.field = some k) :
    IsNoFactor (.predicate (predicate catalog options d)) := by
  apply isNoFactor_keyword (k := k)
  simp only [predicate, Column.ofName, isBare_of_ofWord? hk, hq, Bool.not_false, Bool.and_self,
    if_true, Column.token, Token.symbol, hk, Option.elim_some]

/-- The text of a tree is no condition of SQL if it has a keyword for a column. -/
theorem parse_keyword (hq : options.quoteAllIdentifiers = false) (hd : d ∈ t.conditions)
    (hk : Keyword.ofWord? d.field = some k) : parse (compile t catalog options).toList = none := by
  have ht : t.conditions ≠ [] := List.ne_nil_of_mem hd
  obtain ⟨c, hc⟩ := Option.ne_none_iff_exists'.1 (mt (Group.render?_eq_none t).1 ht)
  have hclause : clause? t catalog options = some c := hc
  let bad (d : Condition) : Prop := Keyword.ofWord? d.field ≠ none
  have hrel := Group.render?_related (related_unreadable catalog options bad) t fun e _ => by
    cases he : Keyword.ofWord? e.field with
    | none =>
      refine ⟨.inl ⟨_, factor?_predicate (Column.symbol_ofName fun _ => he)⟩, ?_⟩
      rintro ⟨e', he', hbad⟩
      exact absurd (List.mem_singleton.1 he' ▸ he) hbad
    | some j => exact ⟨.inr (isNoFactor_predicate hq he), fun _ => isNoFactor_predicate hq he⟩
  have hgather := t.render?_gather
  rw [hc] at hrel
  generalize t.render? .gather = o at hrel hgather
  cases hrel with
  | @some _ ds h =>
    have hbad : ∃ d ∈ ds, bad d := by
      have hds : ds = t.conditions := hgather
      exact ⟨d, hds ▸ hd, fun hnone => nomatch hk.symm.trans hnone⟩
    have hno : IsNoCondition c := by
      split at h
      · exact (h.2 hbad).isNoCondition
      · exact h.2 hbad
    have hend := hno []
    rw [List.append_nil] at hend
    simp only [parse, lex_of_clause? hclause, Option.bind_eq_bind, Option.bind_some, hend,
      Option.bind_none]

end Criteria.Sql
