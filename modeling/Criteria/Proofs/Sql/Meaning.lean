import Criteria.Proofs.Sql.Grammar
import Criteria.Proofs.Sql.Tokens

namespace Criteria.Sql

namespace Token

theorem symbol_keyword (k : Keyword) : (word k.name).symbol = .keyword k := by
  cases k <;> decide

@[simp] theorem symbol_opening : opening.symbol = .token .opening := rfl

@[simp] theorem symbol_closing : closing.symbol = .token .closing := rfl

@[simp] theorem symbol_comma : comma.symbol = .token .comma := rfl

end Token

namespace Keyword

theorem isUpper_of_mem_name (k : Keyword) : ∀ c ∈ k.name.toList, c.isUpper = .true := by
  rw [← List.all_eq_true]
  cases k <;> decide

theorem ofWord?_numeral {s : String} (h : IsNumeral s.toList) : ofWord? s = none := by
  obtain ⟨body, hs, hne, hb⟩ := h
  rw [ofWord?, List.find?_eq_none]
  intro k _ hk
  obtain ⟨c, hc⟩ := List.exists_mem_of_ne_nil body hne
  have hmem : c ∈ s.toList := by
    rcases hs with hs | hs
    · exact hs ▸ hc
    · exact hs ▸ List.mem_cons_of_mem _ hc
  have hupper : c.toUpper.isUpper = .true := by
    apply k.isUpper_of_mem_name
    rw [of_decide_eq_true hk]
    exact List.mem_map_of_mem hmem
  rw [Decimal.isUpper_toUpper (hb c hc)] at hupper
  cases hupper

end Keyword

namespace Literal

theorem isOperand_symbol (l : Literal) : l.token.symbol.isOperand = true := by
  cases l with
  | number x =>
    have hx := Keyword.ofWord?_numeral x.isNumeral_text
    simp [token, Token.symbol, hx, Symbol.isOperand]
  | bool b => cases b <;> decide
  | text s => rfl
  | null => decide

end Literal

namespace Grammar

theorem factor?_column (c : Column) (ts : List Symbol) :
    factor? (.token c.token :: ts) =
      (relation? ts).map fun p => (.atom ⟨c, p.1⟩, p.2) := by
  cases c <;> rw [factor?.eq_def] <;> cases h : relation? ts <;>
    simp [Column.token, predicate?, column?, h]

theorem operand?_literal (l : Literal) (ts : List Symbol) :
    operand? (l.token.symbol :: ts) = some (l.token.symbol, ts) :=
  if_pos l.isOperand_symbol

theorem bounds?_literals (low high : Literal) (ts : List Symbol) :
    bounds? (low.token.symbol :: .keyword .and :: high.token.symbol :: ts) =
      some ((low.token.symbol, high.token.symbol), ts) := by
  simp [bounds?, operand?_literal]

theorem moreItems?_literals (ls : List Literal) (l : Literal) (ts : List Symbol) :
    moreItems? (.token .comma :: (commas ((l :: ls).map Literal.token)).map Token.symbol ++
      .token .closing :: ts) = some ((l :: ls).map (·.token.symbol), ts) := by
  induction ls generalizing l with
  | nil => simp [commas, moreItems?, l.isOperand_symbol]
  | cons m ls ih =>
    have hm := ih m
    simp only [List.map_cons, commas, List.cons_append, Token.symbol_comma] at hm ⊢
    simp only [moreItems?, l.isOperand_symbol, if_true, hm, Option.map_some]

theorem items?_literals (ls : List Literal) (ts : List Symbol) :
    items? (.token .opening :: (commas (ls.map Literal.token)).map Token.symbol ++
      .token .closing :: ts) = some (ls.map (·.token.symbol), ts) := by
  cases ls with
  | nil => rfl
  | cons l ls =>
    have hl := l.isOperand_symbol
    -- an operand is no parenthesis, so the list is not taken for an empty one
    have hne : l.token.symbol ≠ .token .closing := fun he => by simp [he, Symbol.isOperand] at hl
    cases ls with
    | nil => simp [commas, items?, moreItems?, hl]
    | cons m ls =>
      have hm := moreItems?_literals ls m ts
      simp only [List.map_cons, commas, List.cons_append, Token.symbol_comma] at hm ⊢
      rw [items?]
      · simp only [hl, if_true, hm, Option.map_some]
      · exact hne

theorem relation?_between (negated : Bool) (low high : Literal) (ts : List Symbol) :
    relation? ((Predicate.negation negated).map Token.symbol ++ .keyword .between ::
      low.token.symbol :: .keyword .and :: high.token.symbol :: ts) =
        some (.between negated low.token.symbol high.token.symbol, ts) := by
  have hnot : (Token.word "NOT").symbol = .keyword .not := Token.symbol_keyword .not
  cases negated <;> simp [Predicate.negation, hnot, relation?, bounds?_literals]

theorem relation?_among (negated : Bool) (items : List Literal) (ts : List Symbol) :
    relation? ((Predicate.negation negated).map Token.symbol ++ .keyword .isIn ::
      .token .opening :: (commas (items.map Literal.token)).map Token.symbol ++
        .token .closing :: ts) = some (.among negated (items.map (·.token.symbol)), ts) := by
  have hnot : (Token.word "NOT").symbol = .keyword .not := Token.symbol_keyword .not
  have hitems := items?_literals items ts
  rw [List.cons_append] at hitems
  cases negated <;> simp [Predicate.negation, hnot, relation?, hitems]

end Grammar

/-- The formula of a predicate. That a column is blank or not is said by two predicates of SQL. -/
def Predicate.formula (p : Predicate) : Formula Atom :=
  let atom (r : Relation) : Formula Atom := .atom ⟨p.column, r⟩
  match p.test with
  | .compare c l => atom (.compare c l.token.symbol)
  | .like pattern => atom (.like false pattern)
  | .blank => .or (atom (.null false)) (atom (.compare .equal (.token (.text ""))))
  | .notBlank => .and (atom (.null true)) (atom (.compare .notEqual (.token (.text ""))))
  | .between negated low high => atom (.between negated low.token.symbol high.token.symbol)
  | .among negated items => atom (.among negated (items.map (·.token.symbol)))

namespace Grammar

theorem factor?_predicate {p : Predicate} (hp : p.column.token.symbol = .token p.column.token)
    (ts : List Symbol) : factor? (p.tokens.map Token.symbol ++ ts) = some (p.formula, ts) := by
  obtain ⟨column, test⟩ := p
  replace hp : column.token.symbol = .token column.token := hp
  cases test with
  | compare c l =>
    change factor? (column.token.symbol :: .token (.comparison c) :: l.token.symbol :: ts) = _
    rw [hp, factor?_column]
    simp only [relation?, operand?_literal, Option.map_some, Predicate.formula]
  | like pattern =>
    change factor? (column.token.symbol :: .keyword .like :: .token (.text pattern) :: ts) = _
    rw [hp, factor?_column]
    simp only [relation?, Option.map_some, Predicate.formula]
  | blank =>
    change factor? (.token .opening :: column.token.symbol :: .keyword .is :: .keyword .null ::
      .keyword .or :: column.token.symbol :: .token (.comparison .equal) :: .token (.text "") ::
      .token .closing :: ts) = _
    simp [hp, factor?, condition?_eq, term?_eq, factor?_column, relation?, moreFactors?, moreTerms?,
      operand?, Symbol.isOperand, Predicate.formula]
  | notBlank =>
    change factor? (.token .opening :: column.token.symbol :: .keyword .is :: .keyword .not ::
      .keyword .null :: .keyword .and :: column.token.symbol :: .token (.comparison .notEqual) ::
      .token (.text "") :: .token .closing :: ts) = _
    simp [hp, factor?, condition?_eq, term?_eq, moreFactors?_and, factor?_column, relation?,
      moreFactors?, moreTerms?, operand?, Symbol.isOperand, Predicate.formula]
  | between negated low high =>
    have hbetween : (Token.word "BETWEEN").symbol = .keyword .between :=
      Token.symbol_keyword .between
    have hand : (Token.word "AND").symbol = .keyword .and := Token.symbol_keyword .and
    simp only [Predicate.tokens, List.cons_append, List.map_cons, List.map_append, List.map_nil,
      List.append_assoc, List.nil_append, hp, hbetween, hand, factor?_column, relation?_between,
      Option.map_some, Predicate.formula]
  | among negated items =>
    have hin : (Token.word "IN").symbol = .keyword .isIn := Token.symbol_keyword .isIn
    have hrelation := relation?_among negated items ts
    simp only [List.cons_append, List.append_assoc] at hrelation
    simp only [Predicate.tokens, List.cons_append, List.map_cons, List.map_append, List.map_nil,
      List.append_assoc, List.nil_append, hp, hin, Token.symbol_opening, Token.symbol_closing,
      factor?_column, hrelation, Option.map_some, Predicate.formula]

variable {c : Clause} {f : Formula Atom} {ts : List Symbol} {rest : List (Combinator × Clause)}
  {gs : List (Combinator × Formula Atom)}

/-- Whether a clause is read as a formula wherever a factor may stand. -/
def IsFactor (c : Clause) (f : Formula Atom) : Prop :=
  ∀ ts, factor? (c.tokens.map Token.symbol ++ ts) = some (f, ts)

/-- Whether nothing follows a condition, or the parenthesis that closes it. -/
def Ends (ts : List Symbol) : Prop := ts = [] ∨ ∃ us, ts = .token .closing :: us

/-- Whether a clause is read as a formula wherever a whole condition may stand. -/
def IsCondition (c : Clause) (f : Formula Atom) : Prop :=
  ∀ ts, Ends ts → condition? (c.tokens.map Token.symbol ++ ts) = some (f, ts)

theorem Ends.moreFactors? (h : Ends ts) (f : Formula Atom) : moreFactors? f ts = some (f, ts) := by
  rcases h with rfl | ⟨us, rfl⟩ <;> simp [Grammar.moreFactors?]

theorem Ends.moreTerms? (h : Ends ts) (f : Formula Atom) : moreTerms? f ts = some (f, ts) := by
  rcases h with rfl | ⟨us, rfl⟩ <;> simp [Grammar.moreTerms?]

theorem moreTerms?_tokensAfter
    (hs : List.Forall₂ (fun x y => x.1 = y.1 ∧ IsFactor x.2 y.2) rest gs) (ht : Ends ts)
    (f : Formula Atom) :
    ((moreFactors? f ((Clause.tokensAfter rest).map Token.symbol ++ ts)).bind
      fun p => moreTerms? p.1 p.2) = some (f.chain gs, ts) := by
  induction hs generalizing f with
  | nil => simp [Clause.tokensAfter, ht.moreFactors?, ht.moreTerms?, Formula.chain]
  | @cons p q rest gs hp _ ih =>
    obtain ⟨k, c⟩ := p
    obtain ⟨k, g⟩ := q
    obtain ⟨rfl, hc⟩ := hp
    have hc := hc ((Clause.tokensAfter rest).map Token.symbol ++ ts)
    -- AND goes on with the factors read so far, OR starts a condition of its own
    cases k with
    | and =>
      have hand : (Token.word Combinator.and.name).symbol = .keyword .and :=
        Token.symbol_keyword .and
      simp only [Clause.tokensAfter, List.map_append, List.map_cons, List.cons_append,
        List.append_assoc, hand, moreFactors?_and, hc, Option.bind_some]
      exact ih (.and f g)
    | or =>
      have hor : (Token.word Combinator.or.name).symbol = .keyword .or := Token.symbol_keyword .or
      have hg := ih g
      simp [Clause.tokensAfter, hor, Grammar.moreFactors?, Grammar.moreTerms?, condition?_eq,
        term?_eq, hc, hg, Formula.chain]

theorem IsFactor.isCondition (h : IsFactor c f) : IsCondition c f := by
  intro ts ht
  simp [condition?_eq, term?_eq, h ts, ht.moreFactors?, ht.moreTerms?]

theorem IsFactor.joined (h : IsFactor c f)
    (hs : List.Forall₂ (fun x y => x.1 = y.1 ∧ IsFactor x.2 y.2) rest gs) :
    IsCondition (.joined c rest) (f.chain gs) := by
  intro ts ht
  simp only [condition?_eq, term?_eq, Clause.tokens, List.map_append, List.append_assoc, h _,
    Option.bind_some, moreTerms?_tokensAfter hs ht f]

theorem IsCondition.nested (h : IsCondition c f) : IsFactor (.nested c) f := by
  intro ts
  have hc := h (.token .closing :: ts) (.inr ⟨ts, rfl⟩)
  simp only [Clause.tokens, List.map_append, List.map_cons, List.map_nil, List.cons_append,
    List.append_assoc, List.nil_append, Token.symbol_opening, Token.symbol_closing, factor?, hc,
    Option.bind_eq_bind, Option.bind_some]

theorem IsCondition.negated (h : IsCondition c f) : IsFactor (.negated c) (.not f) := by
  intro ts
  have hc := h.nested ts
  have hnot : (Token.word "NOT").symbol = .keyword .not := Token.symbol_keyword .not
  change factor? ((Token.word "NOT").symbol ::
    ((Clause.nested c).tokens.map Token.symbol ++ ts)) = _
  simp only [hnot, factor?, hc, Option.bind_eq_bind, Option.bind_some]

/-- Reading a text undoes the rendering of a tree. -/
theorem related_formula (catalog : Catalog) (options : Options) :
    Rendering.Related
      (fun c f => IsFactor c (f.bind fun d => (predicate catalog options d).formula))
      (fun c f => IsCondition c (f.bind fun d => (predicate catalog options d).formula))
      (rendering catalog options) (.formula fun _ => .chain) where
  join h hs := by
    rw [Rendering.formula, Formula.bind_chain]
    exact h.joined (List.forall₂_map_right_iff.2 hs)
  nest h := h.nested
  negate h := h.negated

end Grammar

open Grammar

theorem Column.symbol_ofName {force : Bool} {name : String}
    (h : force = false → Keyword.ofWord? name = none) :
    (ofName force name).token.symbol = .token (ofName force name).token := by
  rw [ofName]
  split
  · next hb =>
    simp only [Bool.and_eq_true, Bool.not_eq_true'] at hb
    simp [token, Token.symbol, h hb.2]
  · rfl

namespace Clause

mutual

/-- The formula of a clause by the combinators in it, AND before OR. -/
def formula : Clause → Formula Predicate
  | .predicate p => .atom p
  | .joined first rest => first.formula.chain (formulas rest)
  | .nested c => c.formula
  | .negated c => .not c.formula

def formulas : List (Combinator × Clause) → List (Combinator × Formula Predicate)
  | [] => []
  | (k, c) :: rest => (k, c.formula) :: formulas rest

end

theorem formulas_eq (rest : List (Combinator × Clause)) :
    formulas rest = rest.map fun p => (p.1, p.2.formula) := by
  induction rest with
  | nil => rfl
  | cons p rest ih => rw [formulas, ih, List.map_cons]

end Clause

variable {t : Tree} {catalog : Catalog} {options : Options} {c : Clause}

theorem exists_formula_of_clause? (h : clause? t catalog options = some c) :
    ∃ f, t.render? (.formula fun _ => .chain) = some f ∧
      c.formula = f.bind fun d => .atom (predicate catalog options d) := by
  have hrel : Rendering.Related
      (fun c f => c.formula = f.bind fun d => .atom (predicate catalog options d))
      (fun c f => c.formula = f.bind fun d => .atom (predicate catalog options d))
      (rendering catalog options) (.formula fun _ => .chain) := by
    refine ⟨?_, fun h => h, fun h => ?_⟩
    · intro _ c f rest gs hc hs
      rw [Rendering.formula, rendering, Clause.formula, Formula.bind_chain, Clause.formulas_eq, hc,
        Rendering.map_eq_of_forall₂ hs]
    · rw [Rendering.formula, rendering, Clause.formula, Formula.bind, h]
  have hformula := Group.render?_related hrel t fun _ _ => rfl
  rw [clause?] at h
  rw [h] at hformula
  generalize t.render? (.formula fun _ => .chain) = o at hformula
  cases hformula with
  | some hf => exact ⟨_, rfl, by simpa using hf⟩

/-- The text of a tree is read as the formula of its clause if no column that stands unquoted is a
keyword. -/
theorem parse_of_clause? (h : clause? t catalog options = some c)
    (hk : options.quoteAllIdentifiers = false →
      ∀ d ∈ t.conditions, Keyword.ofWord? d.field = none) :
    parse (compile t catalog options).toList = some (c.formula.bind Predicate.formula) := by
  obtain ⟨f, hf, hformula⟩ := exists_formula_of_clause? h
  have hrel := Group.render?_related (related_formula catalog options) t fun d hd =>
    factor?_predicate (Column.symbol_ofName fun hq => hk hq d hd)
  have hrender : t.render? (rendering catalog options) = some c := h
  rw [hf, hrender] at hrel
  cases hrel with
  | some hc =>
    have hcondition : IsCondition c (f.bind fun d => (predicate catalog options d).formula) := by
      split at hc
      · exact hc.isCondition
      · exact hc
    have hend := hcondition [] (.inl rfl)
    rw [List.append_nil] at hend
    simp only [parse, lex_of_clause? h, Option.bind_eq_bind, Option.bind_some, hend, hformula,
      Formula.bind_bind, Formula.bind]

/-- Compiled text is a condition of SQL, and says what the tree says. -/
theorem parse_compile (ht : t.conditions ≠ [])
    (hk : options.quoteAllIdentifiers = false →
      ∀ c ∈ t.conditions, Keyword.ofWord? c.field = none) :
    ∃ f, parse (compile t catalog options).toList = some f ∧
      ∀ v, f.eval v = t.holds fun c => (predicate catalog options c).formula.eval v := by
  obtain ⟨c, hc⟩ := Option.ne_none_iff_exists'.1 (mt (Group.render?_eq_none t).1 ht)
  obtain ⟨f, hf, hv⟩ := Group.exists_formula_chain ht
  obtain ⟨g, hg, hformula⟩ := exists_formula_of_clause? hc
  obtain rfl : f = g := Option.some.inj (hf.symm.trans hg)
  refine ⟨_, parse_of_clause? hc hk, fun v => ?_⟩
  rw [Formula.eval_bind, hformula, Formula.eval_bind, hv]
  rfl

/-- A negated group that mixes combinators around a group without conditions. -/
theorem parse_compile_mixed :
    let t : Tree := ⟨⟨"r", .and, true, none⟩,
      [.condition ⟨"x-1", "a", .equals, .text "it's", some .or⟩,
        .group ⟨"x-2", .or, true, none⟩ [],
        .condition ⟨"x-3", "b", .between, .list [.text "1", .text "2"], none⟩,
        .group ⟨"x-4", .or, false, none⟩
          [.condition ⟨"x-5", "in c", .isEmpty, .null, none⟩,
            .condition ⟨"x-6", "d", .isIn, .list [], none⟩]]⟩
    let a : Atom := ⟨.bare "a", .compare .equal (.token (.text "it's"))⟩
    let b : Atom := ⟨.bare "b", .between false (.token (.text "1")) (.token (.text "2"))⟩
    let c (r : Relation) : Atom := ⟨.quoted "in c", r⟩
    let d : Atom := ⟨.bare "d", .among false []⟩
    t.conditions ≠ [] ∧ (∀ c ∈ t.conditions, Keyword.ofWord? c.field = none) ∧
      ∃ f, parse (compile t ⟨[]⟩ {}).toList = some f ∧
        ∀ v, f.eval v = !(v a || v b && ((v (c (.null false)) ||
          v (c (.compare .equal (.token (.text ""))))) || v d)) := by
  intro t a b c d
  have ht : t.conditions ≠ [] := by decide
  have hk : ∀ c ∈ t.conditions, Keyword.ofWord? c.field = none := by decide
  obtain ⟨f, hf, hv⟩ := @parse_compile t ⟨[]⟩ {} ht fun _ => hk
  refine ⟨ht, hk, f, hf, fun v => (hv v).trans ?_⟩
  rfl

end Criteria.Sql
