import Criteria.Proofs.Rendering
import Criteria.Proofs.Sql.Lexer
import Criteria.Sql.Compile

namespace Criteria.Sql

namespace Token

@[simp] theorem isLexable_text (s : String) : (text s).IsLexable := trivial

@[simp] theorem isLexable_name (s : String) : (name s).IsLexable := trivial

@[simp] theorem isLexable_comparison (c : Comparison) : (comparison c).IsLexable := trivial

@[simp] theorem isLexable_opening : opening.IsLexable := trivial

@[simp] theorem isLexable_closing : closing.IsLexable := trivial

@[simp] theorem isLexable_comma : comma.IsLexable := trivial

theorem isLexable_word {s : String} (hne : s.toList ≠ [])
    (h : s.toList.all isWordChar = true) : (word s).IsLexable :=
  ⟨s.toList, .inl rfl, hne, List.all_eq_true.1 h⟩

theorem isLexable_keyword {s : String}
    (h : s ∈ ["AND", "OR", "NOT", "IS", "NULL", "LIKE", "BETWEEN", "IN", "TRUE", "FALSE"]) :
    (word s).IsLexable := by
  apply isLexable_word
  · revert s
    decide
  · revert s
    decide

theorem isLexable_numeral {s : String} (h : IsNumeral s.toList) : (word s).IsLexable := by
  obtain ⟨body, hs, hne, hb⟩ := h
  refine ⟨body, hs, hne, fun c hc => ?_⟩
  have hplain := hb c hc
  simp only [Decimal.isPlain, Bool.or_eq_true, decide_eq_true_eq] at hplain
  rcases hplain with hd | rfl
  · simp [isWordChar, Char.isAlphanum, hd]
  · decide

end Token

open Token

theorem Column.isLexable_ofName (force : Bool) (name : String) :
    (ofName force name).token.IsLexable := by
  rw [ofName]
  split
  · next h =>
    simp only [isBare, Bool.and_eq_true, Bool.not_eq_true'] at h
    refine isLexable_word (fun he => ?_) h.1.2
    have hempty : name = "" := String.toList_inj.1 he
    rw [hempty] at h
    exact absurd h.1.1 (by decide)
  · exact isLexable_name name

theorem Literal.isLexable_token (l : Literal) : l.token.IsLexable := by
  cases l with
  | number x => exact isLexable_numeral x.isNumeral_text
  | bool b => cases b <;> exact isLexable_keyword (by decide)
  | text s => exact isLexable_text s
  | null => exact isLexable_keyword (by decide)

theorem mem_commas {t : Token} {ts : List Token} (h : t ∈ commas ts) : t = .comma ∨ t ∈ ts := by
  fun_induction commas ts with
  | case1 => exact .inr h
  | case2 => exact .inr h
  | case3 u v ts ih =>
    rcases List.mem_cons.1 h with rfl | h
    · exact .inr List.mem_cons_self
    rcases List.mem_cons.1 h with rfl | h
    · exact .inl rfl
    · exact (ih h).imp_right (List.mem_cons_of_mem _)

namespace Predicate

theorem isLexable_negation (negated : Bool) : ∀ t ∈ negation negated, t.IsLexable := by
  cases negated with
  | false => simp [negation]
  | true => simp [negation, isLexable_keyword]

theorem isLexable_tokens {p : Predicate} (hp : p.column.token.IsLexable) :
    ∀ t ∈ p.tokens, t.IsLexable := by
  obtain ⟨column, test⟩ := p
  replace hp : column.token.IsLexable := hp
  cases test with
  | compare c l => simp [tokens, hp, l.isLexable_token]
  | like pattern => simp [tokens, hp, isLexable_keyword]
  | blank => simp [tokens, hp, isLexable_keyword]
  | notBlank => simp [tokens, hp, isLexable_keyword]
  | between negated low high =>
    have hn := isLexable_negation negated
    simp only [tokens, List.cons_append, List.forall_mem_cons, List.forall_mem_append]
    exact ⟨hp, hn, isLexable_keyword (by decide), low.isLexable_token,
      isLexable_keyword (by decide), high.isLexable_token, by simp⟩
  | among negated items =>
    have hn := isLexable_negation negated
    have hitems : ∀ t ∈ commas (items.map Literal.token), t.IsLexable := by
      intro t ht
      rcases mem_commas ht with rfl | ht
      · exact isLexable_comma
      · obtain ⟨l, -, rfl⟩ := List.mem_map.1 ht
        exact l.isLexable_token
    simp only [tokens, List.cons_append, List.append_assoc, List.forall_mem_cons,
      List.forall_mem_append]
    exact ⟨hp, hn, isLexable_keyword (by decide), isLexable_opening, hitems, by simp⟩

end Predicate

namespace Clause

theorem isLexable_tokens {t : Tree} {catalog : Catalog} {options : Options} {c : Clause}
    (h : clause? t catalog options = some c) : ∀ u ∈ c.tokens, u.IsLexable := by
  refine Group.render?_rec (P := fun c _ => ∀ u ∈ c.tokens, u.IsLexable) ⟨?_, ?_, ?_⟩ ?_ h
  · intro _ c _ rest _ hc hs
    rw [rendering, tokens, List.forall_mem_append]
    refine ⟨hc, ?_⟩
    induction hs with
    | nil => simp [tokensAfter]
    | @cons p _ _ _ hp _ ih =>
      have hname : (word p.1.name).IsLexable := by
        cases p.1 <;> exact isLexable_keyword (by decide)
      rw [tokensAfter, List.cons_append, List.forall_mem_cons, List.forall_mem_append]
      exact ⟨hname, hp.2, ih⟩
  · intro c _ hc
    simpa [rendering, tokens, or_imp, forall_and] using hc
  · intro c _ hc
    simpa [rendering, tokens, or_imp, forall_and, isLexable_keyword] using hc
  · intro c _
    exact Predicate.isLexable_tokens (Column.isLexable_ofName _ _)

end Clause

theorem lex_of_clause? {t : Tree} {catalog : Catalog} {options : Options} {c : Clause}
    (h : clause? t catalog options = some c) :
    lex (compile t catalog options).toList = some c.tokens := by
  rw [compile, h, Option.map_some, Option.getD_some, Clause.text, String.toList_ofList]
  exact lex_spaced c.tokens (Clause.isLexable_tokens h)

end Criteria.Sql
