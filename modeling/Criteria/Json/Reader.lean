import Criteria.Json.Draft
/-!
Reading JSON text. `Draft.ofText` is total: where the text is at fault the draft says so.
-/

namespace Criteria.Json

namespace Numeral

/-- The power of ten as a number; `10 ^ 308` is the greatest there is. -/
def powerOfTen (n : Nat) : Number := (Number.ofQuotient? false (Nat.pow 10 n) 1).getD .zero

/-- A number times a power of ten with one rounding to a step of at most 308 places. From a 64 bit
whole number three steps lead to the result or to zero. -/
def scale : Nat → Number → Int → Option Number
  | 0, x, _ => some x
  | fuel + 1, x, e =>
    if e.natAbs ≤ 308 then
      if 0 ≤ e then x.mul? (powerOfTen e.natAbs) else x.div? (powerOfTen e.natAbs)
    else if x = .zero then some .zero
    else if 0 ≤ e then none
    else (x.div? (powerOfTen 308)).bind fun y => scale fuel y (e + 308)

/-- Appends digits to a whole number while it fits 64 bits; also tells how many were left over. -/
def gather : Nat → List Nat → Nat × Nat
  | n, [] => (n, 0)
  | n, d :: ds => if 10 * n + d < Nat.pow 2 64 then gather (10 * n + d) ds else (n, ds.length + 1)

/-- The number that a literal with a point, an exponent or too many digits stands for: its leading
digits as a 64 bit whole number, scaled by one power of ten. -/
def approximate? (s : Spelling) : Option Number :=
  let (n, dropped) := gather 0 s.whole
  let (m, unread) := gather n s.fraction
  (Number.ofInt? m).bind fun x =>
    (scale 3 x (s.exponent + dropped - (s.fraction.length - unread))).map fun y =>
      if s.negative then y.neg else y

/-- The numeral that a literal stands for, `plain` if it has neither point nor exponent. Nothing if
it is out of range. -/
def ofSpelling? (plain : Bool) (s : Spelling) : Option Numeral :=
  let n := Decimal.ofDigits s.whole
  if plain && !s.negative && n < Nat.pow 2 64 then some (.int n)
  else if plain && s.negative && 0 < n && n ≤ Nat.pow 2 63 then some (.int (-n))
  else (approximate? s).map fun x =>
    if s.negative && x = .zero then .negativeZero else .real x

end Numeral

namespace Scan

/-- A draft with the text after it, or nothing if the text breaks off inside. -/
abbrev Result := Draft × Option (List Char)

def stop (opening : Opening) (fault : Fault) : Result := (.broken opening fault fault, none)

/-- A number that stops short: at the end of the text the fault depends on whether it is read. -/
def stopNumber : List Char → Result
  | [] => (.broken .scalar .truncated .malformed, none)
  | _ :: _ => stop .scalar .malformed

/-- An exponent after its mark: the digits with their sign. -/
def exponentDigits (cs : List Char) : Bool × List Nat × List Char :=
  let (negative, cs) := Spelling.spanSign cs
  let (ds, cs) := Spelling.spanDigits cs
  (negative, ds, cs)

/-- The rest of a number after its point, exponent included. -/
def numberExponent (negative plain : Bool) (whole fraction : List Nat) (cs : List Char) : Result :=
  let finish (plain : Bool) (e : Int) (cs : List Char) : Result :=
    (.number (Numeral.ofSpelling? plain ⟨negative, whole, fraction, e⟩), some cs)
  match cs with
  | c :: rest =>
    if c = 'e' ∨ c = 'E' then
      match exponentDigits rest with
      | (_, [], rest) => stopNumber rest
      | (minus, ds, rest) =>
        let e : Int := Decimal.ofDigits ds
        finish false (if minus then -e else e) rest
    else finish plain 0 cs
  | [] => finish plain 0 []

/-- The rest of a number after the digits before the point. -/
def numberFraction (negative : Bool) (whole : List Nat) : List Char → Result
  | '.' :: cs =>
    match Spelling.spanDigits cs with
    | ([], rest) => stopNumber rest
    | (fraction, rest) => numberExponent negative false whole fraction rest
  | cs => numberExponent negative true whole [] cs

/-- A number after its sign. A leading zero stands alone. -/
def number (negative : Bool) (cs : List Char) : Result :=
  match Spelling.spanDigits cs with
  | ([], rest) => stopNumber rest
  | (0 :: _ :: _, _) => stop .scalar .malformed
  | (whole, rest) => numberFraction negative whole rest

/-- A piece of a JSON string: a character, or a UTF-16 unit that was written in hexadecimal. -/
inductive Piece where
  | char (c : Char)
  | unit (n : Nat)
  deriving DecidableEq

namespace Piece

def isHigh (n : Nat) : Bool := 0xD800 ≤ n && n < 0xDC00
def isLow (n : Nat) : Bool := 0xDC00 ≤ n && n < 0xE000

/-- The characters that the pieces spell, or nothing if a half of a surrogate pair stands alone. -/
def join? : List Piece → Option (List Char)
  | [] => some []
  | .char c :: ps => (join? ps).map (c :: ·)
  | .unit n :: .unit m :: ps =>
    if isHigh n then
      if isLow m then
        (join? ps).map (Char.ofNat (0x10000 + (n - 0xD800) * 0x400 + (m - 0xDC00)) :: ·)
      else none
    else if isLow n then none
    else (join? (.unit m :: ps)).map (Char.ofNat n :: ·)
  | .unit n :: ps =>
    if isHigh n || isLow n then none else (join? ps).map (Char.ofNat n :: ·)

/-- Whether the pieces before a fault already hold a half pair that nothing can complete. -/
def hasUnpaired (ps : List Piece) : Bool :=
  match ps.getLast? with
  | some (.unit n) => if isHigh n then (join? ps.dropLast).isNone else (join? ps).isNone
  | _ => (join? ps).isNone

end Piece

def hexValue? (c : Char) : Option Nat :=
  if '0' ≤ c ∧ c ≤ '9' then some (c.toNat - '0'.toNat)
  else if 'a' ≤ c ∧ c ≤ 'f' then some (c.toNat - 'a'.toNat + 10)
  else if 'A' ≤ c ∧ c ≤ 'F' then some (c.toNat - 'A'.toNat + 10)
  else none

/-- The unit that four hexadecimal digits spell. -/
def unit? (a b c d : Char) : Option Nat := do
  return (((← hexValue? a) * 16 + (← hexValue? b)) * 16 + (← hexValue? c)) * 16 + (← hexValue? d)

/-- The character that a simple escape stands for. -/
def unescape? (c : Char) : Option Char :=
  if c = '"' ∨ c = '\\' ∨ c = '/' then some c
  else if c = 'b' then some '\x08'
  else if c = 'f' then some '\x0c'
  else if c = 'n' then some '\n'
  else if c = 'r' then some '\r'
  else if c = 't' then some '\t'
  else none

/-- The number of bytes of a text in UTF-8. -/
def utf8Size (cs : List Char) : Nat := cs.foldl (fun n c => n + c.utf8Size) 0

/-- The pieces of a string after its opening quote, with the text after it or the fault in it. -/
def pieces : List Char → List Piece × Except Fault (List Char)
  | [] => ([], .error .truncated)
  | '"' :: cs => ([], .ok cs)
  | ['\\'] => ([], .error .truncated)
  | '\\' :: 'u' :: a :: b :: c :: d :: cs =>
    match unit? a b c d with
    | some n => let (ps, rest) := pieces cs; (.unit n :: ps, rest)
    | none => ([], .error .malformed)
  | '\\' :: 'u' :: cs =>
    ([], .error (if utf8Size cs < 4 then .truncated else .malformed))
  | '\\' :: e :: cs =>
    match unescape? e with
    | some c => let (ps, rest) := pieces cs; (.char c :: ps, rest)
    | none => ([], .error .malformed)
  | c :: cs =>
    if c.toNat < 32 then ([], .error .malformed)
    else let (ps, rest) := pieces cs; (.char c :: ps, rest)

/-- A string after its opening quote. -/
def string (cs : List Char) : Result :=
  match pieces cs with
  | (ps, .ok rest) => (.text ((Piece.join? ps).map String.ofList), some rest)
  | (ps, .error fault) =>
    (.broken .text (if Piece.hasUnpaired ps then .malformed else fault) fault, none)

def isBlank (c : Char) : Bool := c = ' ' || c = '\n' || c = '\t' || c = '\r'

def skipBlanks (cs : List Char) : List Char := cs.dropWhile isBlank

/-- A word after its first letter. -/
def word (opening : Opening) (d : Draft) : List Char → List Char → Result
  | [], cs => (d, some cs)
  | _ :: _, [] => stop opening .truncated
  | w :: ws, c :: cs => if w = c then word opening d ws cs else stop opening .malformed

mutual

/-- The value at the head of a text. Each step of the fuel uses up a character or enters a list or
object, so twice the length of the text is enough. -/
def value : Nat → List Char → Result
  | 0, _ => stop .none .malformed
  | fuel + 1, cs =>
    match skipBlanks cs with
    | [] => stop .none .truncated
    | '{' :: cs =>
      match skipBlanks cs with
      | [] => (.object [] (some .truncated), none)
      | '}' :: cs => (.object [] none, some cs)
      | cs => let (ms, ending, rest) := members fuel cs; (.object ms ending, rest)
    | '[' :: cs =>
      match skipBlanks cs with
      | [] => (.list [] (some .truncated), none)
      | ']' :: cs => (.list [] none, some cs)
      | cs => let (ds, ending, rest) := items fuel cs; (.list ds ending, rest)
    | '"' :: cs => string cs
    | '-' :: cs => number true cs
    | c :: cs =>
      if c = 't' then word .scalar (.bool true) ['r', 'u', 'e'] cs
      else if c = 'f' then word .scalar (.bool false) ['a', 'l', 's', 'e'] cs
      else if c = 'n' then word .null .null ['u', 'l', 'l'] cs
      else if c.isDigit then number false (c :: cs)
      else stop .none .malformed

/-- The items of a list from one of them on, up to its bracket. -/
def items : Nat → List Char → List Draft × Option Fault × Option (List Char)
  | 0, _ => ([], some .malformed, none)
  | fuel + 1, cs =>
    match value fuel cs with
    | (d, none) => ([d], none, none)
    | (d, some cs) =>
      match skipBlanks cs with
      | [] => ([d], some .truncated, none)
      | ']' :: cs => ([d], none, some cs)
      | ',' :: cs =>
        let (ds, ending, rest) := items fuel cs
        (d :: ds, ending, rest)
      | _ :: _ => ([d], some .malformed, none)

/-- The members of an object from one of them on, up to its brace. -/
def members : Nat → List Char →
    List (Except Fault String × Draft) × Option Fault × Option (List Char)
  | 0, _ => ([], some .malformed, none)
  | fuel + 1, cs =>
    match skipBlanks cs with
    | '"' :: cs =>
      match string cs with
      | (.text s, some cs) =>
        let key : Except Fault String := match s with
          | some s => .ok s
          | none => .error .malformed
        match skipBlanks cs with
        | ':' :: cs =>
          match value fuel cs with
          | (d, none) => ([(key, d)], none, none)
          | (d, some cs) =>
            match skipBlanks cs with
            | [] => ([(key, d)], some .truncated, none)
            | '}' :: cs => ([(key, d)], none, some cs)
            | ',' :: cs =>
              let (ms, ending, rest) := members fuel cs
              ((key, d) :: ms, ending, rest)
            | _ :: _ => ([(key, d)], some .malformed, none)
        | [] => ([(key, .broken .none .truncated .truncated)], none, none)
        | _ :: _ => ([(key, .broken .none .malformed .malformed)], none, none)
      | (.broken _ read skipped, _) => ([(.error read, .broken .none read skipped)], none, none)
      | _ => ([], some .malformed, none)
    | [] => ([(.error .truncated, .broken .none .truncated .truncated)], none, none)
    | _ :: _ => ([(.error .malformed, .broken .none .malformed .malformed)], none, none)

end

end Scan

namespace Draft

/-- A whole text: a draft, and whether more than blanks follows it. -/
structure Whole where
  draft : Draft
  trailing : Bool

/-- The draft of a text. -/
def ofText (s : String) : Whole :=
  let cs := s.toList
  match Scan.value (2 * cs.length + 2) cs with
  | (d, some rest) => ⟨d, !(Scan.skipBlanks rest).isEmpty⟩
  | (d, none) => ⟨d, false⟩

end Draft

/-- The depth of nesting that reading a text allows. -/
def nestingLimit : Nat := 127

/-- Reads a text with a reader of drafts; nothing but blanks may follow. -/
def Draft.Whole.read {α : Type} (w : Draft.Whole) (reader : Draft → Except Fault α) :
    Except Fault α := do
  let a ← reader w.draft
  if w.trailing then throw .malformed
  return a

/-- The JSON value that a text holds. -/
def parse (s : String) : Except Fault Json :=
  (Draft.ofText s).read (·.toJson nestingLimit)

end Criteria.Json
