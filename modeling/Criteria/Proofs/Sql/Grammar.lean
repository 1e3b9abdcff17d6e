import Criteria.Proofs.Formula
import Criteria.Proofs.Sql.Lexer

namespace Criteria.Sql

inductive Keyword where
  | and
  | or
  | not
  | is
  | null
  | like
  | between
  | isIn
  | true
  | false
  deriving DecidableEq

namespace Keyword

def name : Keyword → String
  | and => "AND"
  | or => "OR"
  | not => "NOT"
  | is => "IS"
  | null => "NULL"
  | like => "LIKE"
  | between => "BETWEEN"
  | isIn => "IN"
  | true => "TRUE"
  | false => "FALSE"

def all : List Keyword := [and, or, not, is, null, like, between, isIn, true, false]

/-- The keyword that a word is in any letter case. -/
def ofWord? (word : String) : Option Keyword :=
  all.find? (·.name.toList = word.toList.map Char.toUpper)

end Keyword

/-- What the grammar is about: keywords and other tokens. -/
inductive Symbol where
  | keyword (k : Keyword)
  | token (t : Token)
  deriving DecidableEq

def Token.symbol : Token → Symbol
  | word s => (Keyword.ofWord? s).elim (.token (.word s)) .keyword
  | t => .token t

namespace Symbol

/-- Whether a symbol can stand for a value: a number, a text, a truth value, null or a column. -/
def isOperand : Symbol → Bool
  | .token (.word _) | .token (.text _) | .token (.name _) => true
  | .keyword k => k = .null ∨ k = .true ∨ k = .false
  | _ => false

end Symbol

/-- What one predicate says of its column. -/
inductive Relation where
  | compare (c : Comparison) (x : Symbol)
  | like (negated : Bool) (pattern : String)
  | null (negated : Bool)
  | between (negated : Bool) (low high : Symbol)
  | among (negated : Bool) (items : List Symbol)
  deriving DecidableEq

structure Atom where
  column : Column
  relation : Relation
  deriving DecidableEq

namespace Grammar

def column? : List Symbol → Option (Column × List Symbol)
  | .token (.word s) :: ts => some (.bare s, ts)
  | .token (.name s) :: ts => some (.quoted s, ts)
  | _ => none

def operand? : List Symbol → Option (Symbol × List Symbol)
  | x :: ts => if x.isOperand then some (x, ts) else none
  | [] => none

/-- The bounds after BETWEEN. -/
def bounds? (ts : List Symbol) : Option ((Symbol × Symbol) × List Symbol) := do
  let (low, ts) ← operand? ts
  let .keyword .and :: ts := ts | none
  let (high, ts) ← operand? ts
  some ((low, high), ts)

/-- The items that follow another one in a list, up to the parenthesis that closes it. -/
def moreItems? : List Symbol → Option (List Symbol × List Symbol)
  | .token .closing :: ts => some ([], ts)
  | .token .comma :: x :: ts =>
    if x.isOperand then (moreItems? ts).map fun (xs, ts) => (x :: xs, ts) else none
  | _ => none

/-- The items of a list, which may be none, and the parentheses around them. -/
def items? : List Symbol → Option (List Symbol × List Symbol)
  | .token .opening :: .token .closing :: ts => some ([], ts)
  | .token .opening :: x :: ts =>
    if x.isOperand then (moreItems? ts).map fun (xs, ts) => (x :: xs, ts) else none
  | _ => none

/-- What follows the column in a predicate. -/
def relation? : List Symbol → Option (Relation × List Symbol)
  | .token (.comparison c) :: ts => (operand? ts).map fun (x, ts) => (.compare c x, ts)
  | .keyword .like :: .token (.text s) :: ts => some (.like false s, ts)
  | .keyword .not :: .keyword .like :: .token (.text s) :: ts => some (.like true s, ts)
  | .keyword .is :: .keyword .null :: ts => some (.null false, ts)
  | .keyword .is :: .keyword .not :: .keyword .null :: ts => some (.null true, ts)
  | .keyword .between :: ts => (bounds? ts).map fun (b, ts) => (.between false b.1 b.2, ts)
  | .keyword .not :: .keyword .between :: ts =>
    (bounds? ts).map fun (b, ts) => (.between true b.1 b.2, ts)
  | .keyword .isIn :: ts => (items? ts).map fun (xs, ts) => (.among false xs, ts)
  | .keyword .not :: .keyword .isIn :: ts => (items? ts).map fun (xs, ts) => (.among true xs, ts)
  | _ => none

def predicate? (ts : List Symbol) : Option (Atom × List Symbol) := do
  let (column, ts) ← column? ts
  let (relation, ts) ← relation? ts
  some (⟨column, relation⟩, ts)

mutual

/-- A predicate, a negation or a condition in parentheses. -/
def factor? (ts : List Symbol) : Option (Formula Atom × List Symbol) :=
  match ts with
  | .keyword .not :: ts => do
    let (f, ts) ← factor? ts
    some (.not f, ts)
  | .token .opening :: ts => do
    let (f, ts) ← condition? ts
    let .token .closing :: ts := ts | none
    some (f, ts)
  | ts => do
    let (a, ts) ← predicate? ts
    some (.atom a, ts)
termination_by 5 * ts.length

/-- Factors joined by AND. -/
def term? (ts : List Symbol) : Option (Formula Atom × List Symbol) := do
  let (f, us) ← factor? ts
  -- The recursion ends by this comparison, which never fails: see length_factor? below.
  if us.length ≤ ts.length then moreFactors? f us else none
termination_by 5 * ts.length + 2

def moreFactors? (f : Formula Atom) (ts : List Symbol) : Option (Formula Atom × List Symbol) :=
  match ts with
  | .keyword .and :: ts => do
    let (g, us) ← factor? ts
    if us.length ≤ ts.length then moreFactors? (.and f g) us else none
  | ts => some (f, ts)
termination_by 5 * ts.length + 1

/-- Terms joined by OR. -/
def condition? (ts : List Symbol) : Option (Formula Atom × List Symbol) := do
  let (f, us) ← term? ts
  if us.length ≤ ts.length then moreTerms? f us else none
termination_by 5 * ts.length + 4

def moreTerms? (f : Formula Atom) (ts : List Symbol) : Option (Formula Atom × List Symbol) :=
  match ts with
  | .keyword .or :: ts => do
    let (g, ts) ← condition? ts
    some (.or f g, ts)
  | ts => some (f, ts)
termination_by 5 * ts.length + 3

end

variable {ts us : List Symbol} {f : Formula Atom}

@[grind →]
theorem length_column? {c : Column} (h : column? ts = some (c, us)) : us.length ≤ ts.length := by
  fun_cases column? ts <;> grind [column?]

@[grind →]
theorem length_operand? {x : Symbol} (h : operand? ts = some (x, us)) :
    us.length ≤ ts.length := by
  fun_cases operand? ts <;> grind [operand?]

@[grind →]
theorem length_bounds? {b : Symbol × Symbol} (h : bounds? ts = some (b, us)) :
    us.length ≤ ts.length := by
  simp only [bounds?, Option.bind_eq_bind, Option.bind_eq_some_iff] at h
  obtain ⟨⟨low, ls⟩, hl, h⟩ := h
  split at h
  · next hs _ =>
    simp only [Option.bind_eq_some_iff] at h
    obtain ⟨⟨high, rs⟩, hr, h⟩ := h
    grind
  · cases h

@[grind →]
theorem length_moreItems? {xs : List Symbol} (h : moreItems? ts = some (xs, us)) :
    us.length ≤ ts.length := by
  fun_induction moreItems? ts generalizing xs <;> grind [moreItems?, Option.map_eq_some_iff]

@[grind →]
theorem length_items? {xs : List Symbol} (h : items? ts = some (xs, us)) :
    us.length ≤ ts.length := by
  fun_cases items? ts <;> grind [items?, Option.map_eq_some_iff]

@[grind →]
theorem length_relation? {r : Relation} (h : relation? ts = some (r, us)) :
    us.length ≤ ts.length := by
  fun_cases relation? ts <;> grind [relation?, Option.map_eq_some_iff]

@[grind →]
theorem length_predicate? {a : Atom} (h : predicate? ts = some (a, us)) :
    us.length ≤ ts.length := by
  simp only [predicate?, Option.bind_eq_bind, Option.bind_eq_some_iff] at h
  obtain ⟨⟨c, cs⟩, hc, ⟨r, rs⟩, hr, h⟩ := h
  cases h
  exact Nat.le_trans (length_relation? hr) (length_column? hc)

theorem length_factors_and_conditions :
    (∀ ts f us, factor? ts = some (f, us) → us.length ≤ ts.length) ∧
    (∀ ts f us, condition? ts = some (f, us) → us.length ≤ ts.length) ∧
    (∀ f ts g us, moreTerms? f ts = some (g, us) → us.length ≤ ts.length) ∧
    (∀ ts f us, term? ts = some (f, us) → us.length ≤ ts.length) ∧
    (∀ f ts g us, moreFactors? f ts = some (g, us) → us.length ≤ ts.length) := by
  refine factor?.mutual_induct _ _ _ _ _ ?negation ?parentheses ?predicate ?condition ?or ?lastTerm
    ?term ?and ?lastFactor
  case negation =>
    intro ts ih f us h
    simp only [factor?, Option.bind_eq_bind, Option.bind_eq_some_iff] at h
    grind
  case parentheses =>
    intro ts ih f us h
    simp only [factor?, Option.bind_eq_bind, Option.bind_eq_some_iff] at h
    grind
  case predicate =>
    intro ts hnot hopening f us h
    rw [factor?, Option.bind_eq_bind, Option.bind_eq_some_iff] at h
    · grind
    · exact hnot
    · exact hopening
  case condition =>
    intro ts _ ih f us h
    simp only [condition?, Option.bind_eq_bind, Option.bind_eq_some_iff] at h
    grind
  case or =>
    intro f ts ih g us h
    simp only [moreTerms?, Option.bind_eq_bind, Option.bind_eq_some_iff] at h
    grind
  case lastTerm =>
    intro f ts hor g us h
    rw [moreTerms?] at h
    · grind
    · exact hor
  case term =>
    intro ts _ ih f us h
    simp only [term?, Option.bind_eq_bind, Option.bind_eq_some_iff] at h
    grind
  case and =>
    intro f ts _ ih g us h
    simp only [moreFactors?, Option.bind_eq_bind, Option.bind_eq_some_iff] at h
    grind
  case lastFactor =>
    intro f ts hand g us h
    rw [moreFactors?] at h
    · grind
    · exact hand

theorem length_factor? (h : factor? ts = some (f, us)) : us.length ≤ ts.length :=
  length_factors_and_conditions.1 ts f us h

theorem length_term? (h : term? ts = some (f, us)) : us.length ≤ ts.length :=
  length_factors_and_conditions.2.2.2.1 ts f us h

theorem term?_eq (ts : List Symbol) :
    term? ts = (factor? ts).bind fun p => moreFactors? p.1 p.2 := by
  rw [term?]
  cases h : factor? ts with
  | none => rfl
  | some p => exact if_pos (length_factor? h)

theorem moreFactors?_and (f : Formula Atom) (ts : List Symbol) :
    moreFactors? f (.keyword .and :: ts) =
      (factor? ts).bind fun p => moreFactors? (.and f p.1) p.2 := by
  rw [moreFactors?]
  cases h : factor? ts with
  | none => rfl
  | some p => exact if_pos (length_factor? h)

theorem condition?_eq (ts : List Symbol) :
    condition? ts = (term? ts).bind fun p => moreTerms? p.1 p.2 := by
  rw [condition?]
  cases h : term? ts with
  | none => rfl
  | some p => exact if_pos (length_term? h)

end Grammar

/-- The formula of a text that is a condition as a whole. -/
def parse (cs : List Char) : Option (Formula Atom) := do
  let ts ← lex cs
  let (f, []) ← Grammar.condition? (ts.map Token.symbol) | none
  some f

end Criteria.Sql
