import Criteria.Proofs.Truth
import Criteria.Proofs.Sql.Tokens

namespace Criteria.Sql

namespace Token

theorem spaced_append (ts : List Token) (t u : Token) (us : List Token) :
    spaced (ts ++ t :: u :: us) =
      spaced (ts ++ [t]) ++ (if t.isTight u then [] else [' ']) ++ spaced (u :: us) := by
  induction ts with
  | nil => rfl
  | cons s ts ih =>
    cases ts with
    | nil => simp [spaced]
    | cons r ts => simp only [List.cons_append, spaced, List.append_assoc] at ih ⊢; rw [ih]

/-- Whether a row of tokens can stand between words: no parenthesis opens at its end, and it does
not begin with what follows another token without a blank. -/
def IsLoose (ts : List Token) : Prop :=
  (∃ us t, ts = us ++ [t] ∧ t ≠ opening) ∧ ∃ t us, ts = t :: us ∧ t ≠ closing ∧ t ≠ comma

variable {ts us : List Token}

theorem spaced_append_word (h : IsLoose ts) (s : String) (us : List Token) :
    spaced (ts ++ word s :: us) = spaced ts ++ ' ' :: spaced (word s :: us) := by
  obtain ⟨⟨rs, t, rfl, ht⟩, -⟩ := h
  rw [List.append_assoc, List.singleton_append, spaced_append]
  cases t <;> simp [isTight] at ht ⊢

theorem spaced_word_cons (h : IsLoose ts) (s : String) (us : List Token) :
    spaced (word s :: (ts ++ us)) = s.toList ++ ' ' :: spaced (ts ++ us) := by
  obtain ⟨-, t, rs, rfl, ht, ht'⟩ := h
  rw [List.cons_append, spaced]
  cases t <;> simp [isTight, chars] at ht ht' ⊢

theorem spaced_parentheses (h : IsLoose ts) :
    spaced (opening :: ts ++ [closing]) = '(' :: spaced ts ++ [')'] := by
  obtain ⟨⟨us, t, rfl, -⟩, -⟩ := h
  have hopening (u : Token) (us : List Token) :
      spaced (opening :: u :: us) = '(' :: spaced (u :: us) := rfl
  have hclosing : t.isTight closing = true := by cases t <;> rfl
  have hlast := spaced_append us t closing []
  rw [if_pos hclosing] at hlast
  cases us <;> simp_all [spaced, chars]

theorem IsLoose.append_word (hts : IsLoose ts) (s : String) (hus : IsLoose us) :
    IsLoose (ts ++ word s :: us) := by
  obtain ⟨-, t, rs, rfl, ht⟩ := hts
  obtain ⟨⟨rs', u, rfl, hu⟩, -⟩ := hus
  exact ⟨⟨t :: rs ++ word s :: rs', u, by simp, hu⟩, t, _, rfl, ht⟩

theorem isLoose_parentheses (ts : List Token) : IsLoose (opening :: ts ++ [closing]) :=
  ⟨⟨opening :: ts, closing, rfl, by simp⟩, opening, _, rfl, by simp, by simp⟩

end Token

open Token

theorem Column.token_ne (c : Column) : c.token ≠ .closing ∧ c.token ≠ .comma := by
  cases c <;> simp [token]

theorem Literal.token_ne_opening (l : Literal) : l.token ≠ .opening := by
  cases l <;> simp [token]

theorem Predicate.isLoose_tokens (p : Predicate) : IsLoose p.tokens := by
  obtain ⟨column, test⟩ := p
  have hcolumn := column.token_ne
  cases test with
  | compare c l =>
    exact ⟨⟨[column.token, .comparison c], l.token, rfl, l.token_ne_opening⟩, _, _, rfl, hcolumn⟩
  | like pattern =>
    exact ⟨⟨[column.token, .word "LIKE"], .text pattern, rfl, by simp⟩, _, _, rfl, hcolumn⟩
  | blank =>
    exact isLoose_parentheses [column.token, .word "IS", .word "NULL", .word "OR", column.token,
      .comparison .equal, .text ""]
  | notBlank =>
    exact isLoose_parentheses [column.token, .word "IS", .word "NOT", .word "NULL", .word "AND",
      column.token, .comparison .notEqual, .text ""]
  | between negated low high =>
    refine ⟨⟨column.token :: negation negated ++ [.word "BETWEEN", low.token, .word "AND"],
      high.token, ?_, high.token_ne_opening⟩, _, _, rfl, hcolumn⟩
    simp [tokens]
  | among negated items => exact ⟨⟨_, .closing, rfl, by simp⟩, _, _, rfl, hcolumn⟩

namespace Clause

mutual

theorem isLoose_tokens (c : Clause) : IsLoose c.tokens := by
  cases c with
  | predicate p => exact p.isLoose_tokens
  | joined first rest => exact isLoose_append_tokensAfter rest (isLoose_tokens first)
  | nested c => exact isLoose_parentheses c.tokens
  | negated c =>
    exact ⟨⟨.word "NOT" :: .opening :: c.tokens, .closing, rfl, by simp⟩, _, _, rfl, by simp,
      by simp⟩

theorem isLoose_append_tokensAfter (rest : List (Combinator × Clause)) {ts : List Token}
    (h : IsLoose ts) : IsLoose (ts ++ tokensAfter rest) := by
  cases rest with
  | nil => rwa [tokensAfter, List.append_nil]
  | cons p rest =>
    rw [tokensAfter, List.cons_append]
    exact h.append_word _ (isLoose_append_tokensAfter rest (isLoose_tokens p.2))

end

theorem chars_negated (c : Clause) :
    (negated c).chars = "NOT (".toList ++ c.chars ++ [')'] := by
  have hnot (ts : List Token) :
      spaced (.word "NOT" :: .opening :: ts) = "NOT ".toList ++ spaced (.opening :: ts) := rfl
  have hparentheses := spaced_parentheses c.isLoose_tokens
  rw [List.cons_append] at hparentheses
  rw [chars, tokens, List.cons_append, List.cons_append, hnot, hparentheses]
  rfl

theorem chars_joined (first : Clause) (rest : List (Combinator × Clause)) :
    (joined first rest).chars =
      first.chars ++ rest.flatMap fun p => ' ' :: p.1.name.toList ++ ' ' :: p.2.chars := by
  induction rest generalizing first with
  | nil => simp [chars, tokens, tokensAfter]
  | cons p rest ih =>
    obtain ⟨k, c⟩ := p
    have hc := ih c
    have hword := spaced_append_word first.isLoose_tokens k.name (c.tokens ++ tokensAfter rest)
    have hname := spaced_word_cons c.isLoose_tokens k.name (tokensAfter rest)
    simp only [chars, tokens, tokensAfter, List.flatMap_cons, List.cons_append] at hc ⊢
    rw [hword, hname, hc]
    simp only [List.append_assoc, List.cons_append]

end Clause

/-- Texts side by side, each but the first with a connector before it. -/
def row (first : List Char) (rest : List (Combinator × List Char)) : List Char :=
  first ++ rest.flatMap fun p => ' ' :: p.1.name.toList ++ ' ' :: p.2

/-- Whether a text is that of a group: its parts in a row with these connectors between them, and
NOT around the row if the group is negated. -/
def IsRow (negated : Bool) (parts : List (List Char)) (connectors : List Combinator)
    (text : List Char) : Prop :=
  ∃ first rest, parts = first :: rest.map (·.2) ∧ connectors = rest.map (·.1) ∧
    text = if negated then "NOT (".toList ++ row first rest ++ [')'] else row first rest

theorem row_inj {first : List Char} {rest rest' : List (Combinator × List Char)}
    (hparts : rest.map (·.2) = rest'.map (·.2)) (h : row first rest = row first rest') :
    rest = rest' := by
  replace h := List.append_cancel_left h
  induction rest generalizing rest' with
  | nil => cases rest' with
    | nil => rfl
    | cons p rest' => cases hparts
  | cons p rest ih =>
    cases rest' with
    | nil => cases hparts
    | cons q rest' =>
      obtain ⟨k, p⟩ := p
      obtain ⟨l, q⟩ := q
      simp only [List.map_cons, List.cons.injEq] at hparts
      obtain ⟨rfl, hparts⟩ := hparts
      obtain rfl : k = l := by
        cases k <;> cases l <;> simp [Combinator.name] at h ⊢
      simp only [List.flatMap_cons, List.append_cancel_left_eq] at h
      rw [ih hparts h]

/-- The connectors of a group can be told from its text and the texts of its parts. -/
theorem IsRow.unique {negated : Bool} {parts : List (List Char)} {cs cs' : List Combinator}
    {text : List Char} (h : IsRow negated parts cs text) (h' : IsRow negated parts cs' text) :
    cs = cs' := by
  obtain ⟨first, rest, rfl, rfl, rfl⟩ := h
  obtain ⟨first', rest', hparts, rfl, htext⟩ := h'
  obtain ⟨rfl, hrest⟩ := List.cons.inj hparts
  have hrow : row first rest = row first rest' := by
    cases negated <;> simpa using htext
  rw [row_inj hrest hrow]

/-- The texts of the children of a group that hold a condition. -/
def partTexts (catalog : Catalog) (options : Options) (g : Group) : List (List Char) :=
  g.children.filterMap fun n => (n.render? (rendering catalog options)).map Clause.chars

theorem isRow_compile {g : Group} (catalog : Catalog) (options : Options) (hg : g.conditions ≠ []) :
    IsRow g.header.negated (partTexts catalog options g) (Node.connectors g.header g.children)
      (compile g catalog options).toList := by
  obtain ⟨c, hc⟩ := Option.ne_none_iff_exists'.1
    (mt (Group.render?_eq_none (r := rendering catalog options) g).1 hg)
  have htext : (compile g catalog options).toList = c.chars := by
    rw [compile, clause?, hc, Option.map_some, Option.getD_some, Clause.text, String.toList_ofList]
  rw [htext]
  obtain ⟨⟨first, rest⟩, hlink, rfl⟩ := Option.map_eq_some_iff.1 hc
  obtain ⟨hparts, hconnectors⟩ := Rendering.link_eq_some hlink
  rw [Node.parts_map_fst] at hparts
  rw [Node.parts_map_snd] at hconnectors
  have hrow : (Clause.joined first rest).chars =
      row first.chars (rest.map fun p => (p.1, p.2.chars)) := by
    rw [Clause.chars_joined, row, List.flatMap_map]
  refine ⟨first.chars, rest.map fun p => (p.1, p.2.chars), ?_, ?_, ?_⟩
  · rw [partTexts, ← List.map_filterMap, hparts, List.map_cons, List.map_map, List.map_map]
    rfl
  · rw [Node.connectors, ← hconnectors, List.map_map]
    rfl
  · dsimp only [rendering]
    split
    · rw [Clause.chars_negated, hrow]
    · exact hrow

end Criteria.Sql
