import Criteria.Json
/-!
JSON values as text, either without blanks or with one member to a line and two blanks of indent to
a level.
-/

namespace Criteria.Json

def hexDigit (n : Nat) : Char :=
  if n < 10 then Char.ofNat ('0'.toNat + n) else Char.ofNat ('a'.toNat + n - 10)

/-- A character inside a JSON string: quotes, backslashes and controls are escaped. -/
def escape (c : Char) : List Char :=
  if c = '"' then ['\\', '"']
  else if c = '\\' then ['\\', '\\']
  else if c = '\x08' then ['\\', 'b']
  else if c = '\x0c' then ['\\', 'f']
  else if c = '\n' then ['\\', 'n']
  else if c = '\r' then ['\\', 'r']
  else if c = '\t' then ['\\', 't']
  else if c.toNat < 32 then
    ['\\', 'u', '0', '0', hexDigit (c.toNat / 16), hexDigit (c.toNat % 16)]
  else [c]

/-- A text between quotes. -/
def quoted (s : String) : List Char := '"' :: s.toList.flatMap escape ++ ['"']

mutual

/-- The value without blanks. -/
def compact : Json → List Char
  | .null => ['n', 'u', 'l', 'l']
  | .bool true => ['t', 'r', 'u', 'e']
  | .bool false => ['f', 'a', 'l', 's', 'e']
  | .number n => n.chars
  | .text s => quoted s
  | .list [] => ['[', ']']
  | .list (j :: js) => '[' :: compact j ++ compactItems js
  | .object [] => ['{', '}']
  | .object ((key, j) :: ms) => '{' :: quoted key ++ ':' :: compact j ++ compactMembers ms

/-- The items after the first one, and the closing bracket. -/
def compactItems : List Json → List Char
  | [] => [']']
  | j :: js => ',' :: compact j ++ compactItems js

/-- The members after the first one, and the closing brace. -/
def compactMembers : List (String × Json) → List Char
  | [] => ['}']
  | (key, j) :: ms => ',' :: quoted key ++ ':' :: compact j ++ compactMembers ms

end

/-- The start of a line at a level of indent. -/
def newline (level : Nat) : List Char := '\n' :: List.replicate (2 * level) ' '

mutual

/-- The value with one item or member to a line. -/
def indented (level : Nat) : Json → List Char
  | .null => ['n', 'u', 'l', 'l']
  | .bool true => ['t', 'r', 'u', 'e']
  | .bool false => ['f', 'a', 'l', 's', 'e']
  | .number n => n.chars
  | .text s => quoted s
  | .list [] => ['[', ']']
  | .list (j :: js) =>
    '[' :: newline (level + 1) ++ indented (level + 1) j ++ indentedItems level js
  | .object [] => ['{', '}']
  | .object ((key, j) :: ms) =>
    '{' :: newline (level + 1) ++ quoted key ++ ':' :: ' ' :: indented (level + 1) j
      ++ indentedMembers level ms

def indentedItems (level : Nat) : List Json → List Char
  | [] => newline level ++ [']']
  | j :: js =>
    ',' :: newline (level + 1) ++ indented (level + 1) j ++ indentedItems level js

def indentedMembers (level : Nat) : List (String × Json) → List Char
  | [] => newline level ++ ['}']
  | (key, j) :: ms =>
    ',' :: newline (level + 1) ++ quoted key ++ ':' :: ' ' :: indented (level + 1) j
      ++ indentedMembers level ms

end

/-- The value as text without blanks. -/
def render (j : Json) : String := String.ofList j.compact

/-- The value as indented text. -/
def renderPretty (j : Json) : String := String.ofList (j.indented 0)

end Criteria.Json
