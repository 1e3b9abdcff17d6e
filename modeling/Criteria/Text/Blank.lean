/-!
Blank characters and trimming. A character is blank if Unicode gives it the property White_Space.
-/

namespace Criteria.Text

/-- The characters with the Unicode property White_Space. -/
def isBlank (c : Char) : Bool :=
  let n := c.toNat
  (9 ≤ n && n ≤ 13) || n = 32 || n = 0x85 || n = 0xA0 || n = 0x1680 ||
    (0x2000 ≤ n && n ≤ 0x200A) || n = 0x2028 || n = 0x2029 || n = 0x202F || n = 0x205F ||
    n = 0x3000

/-- The text without blanks at its start. -/
def trimStart (cs : List Char) : List Char := cs.dropWhile isBlank

/-- The text without blanks at its end. -/
def trimEnd (cs : List Char) : List Char := (cs.reverse.dropWhile isBlank).reverse

/-- The text without blanks around it. -/
def trim (cs : List Char) : List Char := trimEnd (trimStart cs)

/-- A lower-case letter of ASCII for an upper-case one; all else unchanged. -/
def lower (s : String) : String := String.ofList (s.toList.map Char.toLower)

end Criteria.Text
