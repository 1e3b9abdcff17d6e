import Criteria.Tree
/-!
The SQL conditions that rule trees compile to: predicates on columns, joined by AND and OR, negated
and set in parentheses. A clause is a row of tokens, and its text is the tokens with blanks between
them.
-/

namespace Criteria.Sql

/-- What stands for a column: a bare word or a quoted name. -/
inductive Column where
  | bare (name : String)
  | quoted (name : String)
  deriving DecidableEq

inductive Literal where
  | number (x : Number)
  | bool (b : Bool)
  | text (s : String)
  | null
  deriving DecidableEq

inductive Comparison where
  | equal
  | notEqual
  | greater
  | greaterOrEqual
  | less
  | lessOrEqual
  deriving DecidableEq

/-- What a predicate says of its column. -/
inductive Test where
  | compare (c : Comparison) (l : Literal)
  | like (pattern : String)
  /-- Null or the empty text. -/
  | blank
  /-- Neither null nor the empty text. -/
  | notBlank
  | between (negated : Bool) (low high : Literal)
  | among (negated : Bool) (items : List Literal)
  deriving DecidableEq

structure Predicate where
  column : Column
  test : Test
  deriving DecidableEq

inductive Clause where
  | predicate (p : Predicate)
  /-- Clauses side by side; each but the first comes with the combinator before it. -/
  | joined (first : Clause) (rest : List (Combinator × Clause))
  /-- A clause in parentheses. -/
  | nested (c : Clause)
  | negated (c : Clause)

inductive Token where
  /-- A bare word: a keyword, a column or a number. -/
  | word (s : String)
  /-- A text between single quotes. -/
  | text (s : String)
  /-- A name between double quotes. -/
  | name (s : String)
  | comparison (c : Comparison)
  | opening
  | closing
  | comma
  deriving DecidableEq

/-- Whether a name is a bare word: letters and digits of ASCII, underscores and points. -/
def isBare (name : String) : Bool :=
  !name.isEmpty && name.toList.all fun c => c.isAlphanum || c = '_' || c = '.'

/-- The column of a name. It is quoted unless it is a bare word, and always if `force` is set. -/
def Column.ofName (force : Bool) (name : String) : Column :=
  if isBare name && !force then .bare name else .quoted name

/-- A text between marks; a mark inside of it is written twice. -/
def quote (mark : Char) (s : String) : List Char :=
  mark :: s.toList.flatMap (fun c => if c = mark then [mark, mark] else [c]) ++ [mark]

namespace Comparison

def chars : Comparison → List Char
  | equal => ['=']
  | notEqual => ['<', '>']
  | greater => ['>']
  | greaterOrEqual => ['>', '=']
  | less => ['<']
  | lessOrEqual => ['<', '=']

end Comparison

namespace Token

def chars : Token → List Char
  | word s => s.toList
  | text s => quote '\'' s
  | name s => quote '"' s
  | comparison c => c.chars
  | opening => ['(']
  | closing => [')']
  | comma => [',']

/-- Whether two tokens stand next to each other without a blank. -/
def isTight : Token → Token → Bool
  | opening, _ | _, closing | _, comma => true
  | _, _ => false

/-- A row of tokens as text. -/
def spaced : List Token → List Char
  | [] => []
  | [t] => t.chars
  | t :: u :: ts => t.chars ++ (if t.isTight u then [] else [' ']) ++ spaced (u :: ts)

end Token

namespace Column

def token : Column → Token
  | bare name => .word name
  | quoted name => .name name

def text (c : Column) : String := String.ofList c.token.chars

end Column

namespace Literal

def token : Literal → Token
  | number x => .word x.text
  | bool b => .word (if b then "TRUE" else "FALSE")
  | text s => .text s
  | null => .word "NULL"

end Literal

/-- Tokens with commas between them. -/
def commas : List Token → List Token
  | [] => []
  | [t] => [t]
  | t :: u :: ts => t :: .comma :: commas (u :: ts)

namespace Predicate

def negation (negated : Bool) : List Token := if negated then [.word "NOT"] else []

def tokens (p : Predicate) : List Token :=
  let column := p.column.token
  match p.test with
  | .compare c l => [column, .comparison c, l.token]
  | .like pattern => [column, .word "LIKE", .text pattern]
  | .blank =>
    [.opening, column, .word "IS", .word "NULL", .word "OR", column, .comparison .equal, .text "",
      .closing]
  | .notBlank =>
    [.opening, column, .word "IS", .word "NOT", .word "NULL", .word "AND", column,
      .comparison .notEqual, .text "", .closing]
  | .between negated low high =>
    column :: negation negated ++ [.word "BETWEEN", low.token, .word "AND", high.token]
  | .among negated items =>
    column :: negation negated ++ .word "IN" :: .opening :: commas (items.map Literal.token)
      ++ [.closing]

end Predicate

namespace Clause

mutual

def tokens : Clause → List Token
  | .predicate p => p.tokens
  | .joined first rest => first.tokens ++ tokensAfter rest
  | .nested c => .opening :: c.tokens ++ [.closing]
  | .negated c => .word "NOT" :: .opening :: c.tokens ++ [.closing]

def tokensAfter : List (Combinator × Clause) → List Token
  | [] => []
  | (combinator, c) :: rest => .word combinator.name :: c.tokens ++ tokensAfter rest

end

def chars (c : Clause) : List Char := Token.spaced c.tokens

def text (c : Clause) : String := String.ofList c.chars

end Clause

end Criteria.Sql
