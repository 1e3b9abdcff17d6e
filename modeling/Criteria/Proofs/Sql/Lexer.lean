import Criteria.Proofs.Number.Text
import Criteria.Sql

namespace Criteria.Sql

def isWordChar (c : Char) : Bool := c.isAlphanum || c = '_' || c = '.'

namespace Lexer

/-- The text before a closing mark, in which a mark written twice stands for one, and what follows
the mark. -/
def quoted? (mark : Char) : List Char → Option (List Char × List Char)
  | [] => none
  | c :: cs =>
    if c ≠ mark then (quoted? mark cs).map fun (s, rest) => (c :: s, rest)
    else match cs with
      | [] => some ([], [])
      | d :: ds =>
        if d = mark then (quoted? mark ds).map fun (s, rest) => (mark :: s, rest)
        else some ([], d :: ds)

/-- The longest bare word at the head of a text, with a sign before it. -/
def word? (sign cs : List Char) : Option (Token × List Char) :=
  if cs.takeWhile isWordChar = [] then none
  else some (.word (String.ofList (sign ++ cs.takeWhile isWordChar)), cs.dropWhile isWordChar)

/-- The sign at the head of a text, the longest there is. -/
def sign? : List Char → Option (Token × List Char)
  | '(' :: cs => some (.opening, cs)
  | ')' :: cs => some (.closing, cs)
  | ',' :: cs => some (.comma, cs)
  | '=' :: cs => some (.comparison .equal, cs)
  | '<' :: '>' :: cs => some (.comparison .notEqual, cs)
  | '<' :: '=' :: cs => some (.comparison .lessOrEqual, cs)
  | '<' :: cs => some (.comparison .less, cs)
  | '>' :: '=' :: cs => some (.comparison .greaterOrEqual, cs)
  | '>' :: cs => some (.comparison .greater, cs)
  | _ => none

/-- The token at the head of a text and what follows it. -/
def token? : List Char → Option (Token × List Char)
  | '\'' :: cs => (quoted? '\'' cs).map fun (s, rest) => (.text (String.ofList s), rest)
  | '"' :: cs => (quoted? '"' cs).map fun (s, rest) => (.name (String.ofList s), rest)
  | '-' :: cs => word? ['-'] cs
  | cs => (sign? cs).or (word? [] cs)

variable {mark : Char} {cs s rest sign : List Char} {t : Token}

theorem length_quoted? (h : quoted? mark cs = some (s, rest)) : rest.length < cs.length := by
  fun_induction quoted? mark cs generalizing s with
  | case1 => cases h
  | case2 c cs hc ih =>
    obtain ⟨⟨u, r⟩, hu, he⟩ := Option.map_eq_some_iff.1 h
    cases he
    exact Nat.lt_succ_of_lt (ih hu)
  | case3 =>
    cases h
    exact Nat.zero_lt_one
  | case4 c hc ds ih =>
    obtain ⟨⟨u, r⟩, hu, he⟩ := Option.map_eq_some_iff.1 h
    cases he
    exact Nat.lt_succ_of_lt (Nat.lt_succ_of_lt (ih hu))
  | case5 =>
    cases h
    exact Nat.lt_succ_self _

theorem length_word? (h : word? sign cs = some (t, rest)) : rest.length < cs.length := by
  rw [word?] at h
  split at h
  · cases h
  · next hne =>
    cases h
    have hlen := congrArg List.length (List.takeWhile_append_dropWhile (p := isWordChar) (l := cs))
    have hpos := List.length_pos_iff.2 hne
    rw [List.length_append] at hlen
    omega

theorem length_sign? (h : sign? cs = some (t, rest)) : rest.length < cs.length := by
  rw [sign?.eq_def] at h
  split at h <;> cases h <;> simp only [List.length_cons] <;> omega

theorem length_token? (h : token? cs = some (t, rest)) : rest.length < cs.length := by
  rw [token?.eq_def] at h
  split at h
  · obtain ⟨⟨u, r⟩, hu, he⟩ := Option.map_eq_some_iff.1 h
    cases he
    exact Nat.lt_succ_of_lt (length_quoted? hu)
  · obtain ⟨⟨u, r⟩, hu, he⟩ := Option.map_eq_some_iff.1 h
    cases he
    exact Nat.lt_succ_of_lt (length_quoted? hu)
  · exact Nat.lt_succ_of_lt (length_word? h)
  · rcases Option.or_eq_some_iff.1 h with h | ⟨-, h⟩
    · exact length_sign? h
    · exact length_word? h

end Lexer

/-- The tokens of a text, if it is made up of tokens and blanks. -/
def lex : List Char → Option (List Token)
  | [] => some []
  | c :: cs =>
    if c.isWhitespace then lex cs
    else match _h : Lexer.token? (c :: cs) with
      | none => none
      | some (t, rest) => (lex rest).map (t :: ·)
termination_by cs => cs.length
decreasing_by
  · exact Nat.lt_succ_self _
  · exact Lexer.length_token? ‹_›

namespace Token

/-- Whether a token of these characters is read as a whole: a word has to be a bare word. -/
def IsLexable : Token → Prop
  | word s => ∃ body, (s.toList = body ∨ s.toList = '-' :: body) ∧ body ≠ [] ∧
      ∀ c ∈ body, isWordChar c = true
  | _ => True

end Token

namespace Lexer

variable {mark : Char} {cs s rest body : List Char} {t : Token}

/-- What may follow a token: nothing, a blank, or a sign that stands right after it. -/
def IsDelimited : List Char → Prop
  | [] => True
  | c :: _ => c = ' ' ∨ c = ',' ∨ c = ')'

theorem quoted?_quote (hr : rest.head? ≠ some mark) (s : List Char) :
    quoted? mark (s.flatMap (fun c => if c = mark then [mark, mark] else [c]) ++ mark :: rest) =
      some (s, rest) := by
  induction s with
  | nil =>
    cases rest with
    | nil => simp [quoted?]
    | cons c rest =>
      have hc : c ≠ mark := fun he => hr (congrArg some he)
      simp [quoted?, hc]
  | cons c s ih =>
    by_cases hc : c = mark
    · subst hc
      simp [quoted?, ih]
    · simp only [List.flatMap_cons, if_neg hc, List.cons_append, List.nil_append]
      rw [quoted?.eq_def]
      simp only [ne_eq, hc, not_false_eq_true, if_true, ih, Option.map_some]

theorem takeWhile_word (hb : ∀ c ∈ body, isWordChar c = true) (hr : IsDelimited rest) :
    (body ++ rest).takeWhile isWordChar = body ∧ (body ++ rest).dropWhile isWordChar = rest := by
  have hrest : rest.takeWhile isWordChar = [] ∧ rest.dropWhile isWordChar = rest := by
    cases rest with
    | nil => exact ⟨rfl, rfl⟩
    | cons c rest =>
      -- whatever may follow a token ends a word
      have hc : isWordChar c = false := by
        rcases hr with rfl | rfl | rfl <;> decide
      simp [hc]
  rw [List.takeWhile_append_of_pos hb, List.dropWhile_append_of_pos hb, hrest.1, hrest.2,
    List.append_nil]
  exact ⟨rfl, rfl⟩

theorem word?_append (hne : body ≠ []) (hb : ∀ c ∈ body, isWordChar c = true)
    (hr : IsDelimited rest) (sign : List Char) :
    word? sign (body ++ rest) = some (.word (String.ofList (sign ++ body)), rest) := by
  obtain ⟨htake, hdrop⟩ := takeWhile_word hb hr
  rw [word?, htake, hdrop, if_neg hne]

theorem sign?_of_isWordChar {c : Char} (hc : isWordChar c = true) (cs : List Char) :
    sign? (c :: cs) = none := by
  have hne : c ≠ '(' ∧ c ≠ ')' ∧ c ≠ ',' ∧ c ≠ '=' ∧ c ≠ '<' ∧ c ≠ '>' := by
    refine ⟨?_, ?_, ?_, ?_, ?_, ?_⟩ <;> rintro rfl <;> exact absurd hc (by decide)
  rw [sign?.eq_def]
  split <;> simp_all

theorem token?_of_isWordChar {c : Char} (hc : isWordChar c = true) (cs : List Char) :
    token? (c :: cs) = word? [] (c :: cs) := by
  rw [token?.eq_def]
  split
  · next he => cases he; exact absurd hc (by decide)
  · next he => cases he; exact absurd hc (by decide)
  · next he => cases he; exact absurd hc (by decide)
  · rw [sign?_of_isWordChar hc, Option.none_or]

theorem token?_word {s : String} (ht : (Token.word s).IsLexable) (hr : IsDelimited rest) :
    token? (s.toList ++ rest) = some (.word s, rest) := by
  obtain ⟨body, hs | hs, hne, hb⟩ := ht
  · cases body with
    | nil => exact absurd rfl hne
    | cons c body =>
      rw [hs, List.cons_append, token?_of_isWordChar (hb c List.mem_cons_self),
        ← List.cons_append, word?_append hne hb hr, List.nil_append, ← hs, String.ofList_toList]
  · rw [hs]
    exact (word?_append hne hb hr ['-']).trans (by rw [List.singleton_append, ← hs,
      String.ofList_toList])

theorem head?_ne_of_isDelimited {c : Char} (hr : IsDelimited rest)
    (hc : c ≠ ' ' ∧ c ≠ ',' ∧ c ≠ ')') : rest.head? ≠ some c := by
  cases rest with
  | nil => simp
  | cons d rest =>
    intro he
    cases he
    rcases hr with rfl | rfl | rfl
    · exact hc.1 rfl
    · exact hc.2.1 rfl
    · exact hc.2.2 rfl

theorem token?_comparison (c : Comparison) (hr : IsDelimited rest) :
    token? (c.chars ++ rest) = some (.comparison c, rest) := by
  cases rest with
  | nil => cases c <;> rfl
  | cons d rest => rcases hr with rfl | rfl | rfl <;> cases c <;> rfl

/-- A token is read from a text that starts with its characters, whatever may follow it. -/
theorem token?_chars (ht : t.IsLexable) (hr : t ≠ .opening → IsDelimited rest) :
    token? (t.chars ++ rest) = some (t, rest) := by
  cases t with
  | word s => exact token?_word ht (hr (by simp))
  | text s =>
    have hhead : rest.head? ≠ some '\'' := head?_ne_of_isDelimited (hr (by simp)) (by decide)
    have hq := quoted?_quote hhead s.toList
    simp only [Token.chars, quote, List.cons_append, List.append_assoc, List.nil_append, token?]
    rw [hq, Option.map_some, String.ofList_toList]
  | name s =>
    have hhead : rest.head? ≠ some '"' := head?_ne_of_isDelimited (hr (by simp)) (by decide)
    have hq := quoted?_quote hhead s.toList
    simp only [Token.chars, quote, List.cons_append, List.append_assoc, List.nil_append, token?]
    rw [hq, Option.map_some, String.ofList_toList]
  | comparison c => exact token?_comparison c (hr (by simp))
  | opening => rfl
  | closing => rfl
  | comma => rfl

theorem token?_of_isWhitespace {c : Char} (hc : c.isWhitespace = true) (cs : List Char) :
    token? (c :: cs) = none := by
  have hc : c = ' ' ∨ c = '\t' ∨ c = '\r' ∨ c = '\n' := by
    simpa [Char.isWhitespace, or_assoc] using hc
  rcases hc with rfl | rfl | rfl | rfl <;> rfl

end Lexer

open Lexer

variable {t : Token} {rest : List Char}

theorem lex_blank (cs : List Char) : lex (' ' :: cs) = lex cs := by
  rw [lex, if_pos (by decide)]

theorem lex_chars (ht : t.IsLexable) (hr : t ≠ .opening → IsDelimited rest) :
    lex (t.chars ++ rest) = (lex rest).map (t :: ·) := by
  have htoken := token?_chars ht hr
  cases hcs : t.chars ++ rest with
  | nil =>
    rw [hcs] at htoken
    cases htoken
  | cons c cs =>
    rw [hcs] at htoken
    have hc : ¬ c.isWhitespace = true := by
      intro hc
      rw [token?_of_isWhitespace hc] at htoken
      cases htoken
    rw [lex, if_neg hc]
    split
    · next hnone =>
      rw [htoken] at hnone
      cases hnone
    · next hsome =>
      rw [htoken] at hsome
      cases hsome
      rfl

theorem isDelimited_spaced (u : Token) (ts : List Token) (ht : t ≠ .opening) :
    IsDelimited ((if t.isTight u then [] else [' ']) ++ Token.spaced (u :: ts)) := by
  obtain ⟨tail, htail⟩ : ∃ tail, Token.spaced (u :: ts) = u.chars ++ tail := by
    cases ts with
    | nil => exact ⟨[], (List.append_nil _).symm⟩
    | cons v ts => exact ⟨_, List.append_assoc _ _ _⟩
  rw [htail]
  cases u <;> cases t <;> simp [Token.isTight, Token.chars, IsDelimited] at ht ⊢

theorem lex_spaced (ts : List Token) (h : ∀ t ∈ ts, t.IsLexable) :
    lex (Token.spaced ts) = some ts := by
  induction ts with
  | nil => rw [Token.spaced, lex]
  | cons t ts ih =>
    have ht := h t List.mem_cons_self
    have hts := ih fun u hu => h u (List.mem_cons_of_mem _ hu)
    cases ts with
    | nil =>
      have hend : lex (t.chars ++ []) = (lex []).map (t :: ·) := lex_chars ht fun _ => trivial
      rw [List.append_nil, lex] at hend
      exact hend
    | cons u ts =>
      rw [Token.spaced, List.append_assoc, lex_chars ht (isDelimited_spaced u ts)]
      split
      · rw [List.nil_append, hts]
        rfl
      · rw [List.singleton_append, lex_blank, hts]
        rfl

end Criteria.Sql
