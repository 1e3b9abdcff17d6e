import Criteria.CharSet.Age
import Criteria.CharSet.Break
/-!
Sets of characters by the name of a property: a category, a script or a property of its own, or the
name of a property and a value of it.
-/

namespace Criteria.CharSet

/-- A name as it is looked up: without blanks, hyphens and underlines, in lower case, without what
is not ASCII. An "is" in front does not count, unless no more than a "c" is left. -/
def nameKey (cs : List Char) : String :=
  let lower := cs.map Char.toLower
  let plain (cs : List Char) : List Char :=
    cs.filter fun c => c ≠ ' ' && c ≠ '-' && c ≠ '_' && c.toNat < 128
  match lower with
  | 'i' :: 's' :: rest =>
    let key := plain rest
    if key = ['c'] then "isc" else String.ofList key
  | _ => String.ofList (plain lower)

/-- The characters that a name alone stands for. -/
def ofName? (cs : List Char) : Option CharSet := ofKey? (nameKey cs)

/-- The characters for which a property has a value. -/
def ofValue? (property value : List Char) : Option CharSet :=
  let value := nameKey value
  match nameKey property with
  | "gc" | "generalcategory" => Category.ofName? value
  | "sc" | "script" => Script.ofName? value
  | "scx" | "scriptextensions" => Script.usedInName? value
  | "age" => Age.ofName? value
  | "gcb" | "graphemeclusterbreak" => BreakClass.ofCharacters? value
  | "wb" | "wordbreak" => BreakClass.ofName? BreakClass.words value
  | "sb" | "sentencebreak" => BreakClass.ofName? BreakClass.sentences value
  | _ => none

/-- A text cut at the first place where another one stands in it. -/
def cutAt? (mark : List Char) : List Char → Option (List Char × List Char)
  | [] => none
  | c :: cs =>
    if mark.isPrefixOf (c :: cs) then some ([], (c :: cs).drop mark.length)
    else (cutAt? mark cs).map fun (before, after) => (c :: before, after)

/-- The characters that a name stands for, or a property and its value with a sign between them. The
sign for "not equal" is looked for first and means the same as the others. -/
def ofQuery? (cs : List Char) : Option CharSet :=
  match (cutAt? ['!', '='] cs).or ((cutAt? [':'] cs).or (cutAt? ['='] cs)) with
  | some (property, value) => ofValue? property value
  | none => ofName? cs

end Criteria.CharSet
