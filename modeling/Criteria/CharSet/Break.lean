import Criteria.CharSet.Property
import Criteria.CharSet.Script
/-!
Classes of characters that tell where a text may be cut: between the characters as readers see them,
between words or between sentences.
-/

namespace Criteria.CharSet

/-- The characters that a name in lower case stands for: a category, a property or a script. -/
def ofKey? (key : String) : Option CharSet :=
  (Category.ofName? key).or ((Property.ofName? key).or (Script.ofName? key))

/-- A class by the names of sets whose characters are mostly in it, those of sets whose characters
are mostly not, and the runs of characters for which this is the wrong way round. -/
structure BreakClass where
  /-- Its names in lower case. -/
  names : List String
  inside : List String
  outside : List String
  exceptions : List String

namespace BreakClass

/-- The classes for the cuts between characters as readers see them, without those of the syllables
of Hangul. -/
def characters : List BreakClass :=
  [
    ⟨["cr"], [], [], ["D"]⟩,
    ⟨["control", "cn"], ["cc", "cf", "zl", "zp"], ["grext"],
      ["A D 600-605 6DD 70F 890-891 8E2 200D 2065 FFF0-FFF8 110BD 110CD E0000 E0002-E001F",
        "E0080-E00FF E01F0-E0FFF"]⟩,
    ⟨["extend", "ex"], ["emod", "grext"], [], []⟩,
    ⟨["l"], [], [], ["1100-115F A960-A97C"]⟩,
    ⟨["lf"], [], [], ["A"]⟩,
    ⟨["prepend", "pp"], [], [],
      ["600-605 6DD 70F 890-891 8E2 D4E 110BD 110CD 111C2-111C3 113D1 1193F 11941 11A3A",
        "11A84-11A89 11D46 11F02"]⟩,
    ⟨["regionalindicator", "ri"], ["ri"], [], []⟩,
    ⟨["spacingmark", "sm"], ["mc"], ["grext"],
      ["E33 EB3 102B-102C 1038 1062-1064 1067-106D 1083 1087-108C 108F 109A-109C 1A61",
        "1A63-1A64 AA7B AA7D 11720-11721"]⟩,
    ⟨["t"], [], [], ["11A8-11FF D7CB-D7FB"]⟩,
    ⟨["v"], [], [], ["1160-11A7 D7B0-D7C6 16D63 16D67-16D6A"]⟩,
    ⟨["zwj"], [], [], ["200D"]⟩]

def words : List BreakClass :=
  [
    ⟨["aletter", "le"], ["alpha"], ["grext", "hebr", "hira", "ideo", "kana", "mc"],
      ["2C2-2C5 2D2-2D7 2DE-2DF 2E5-2EB 2ED 2EF-2FF 55A-55C 55E 58A 5F3 70F E01-E30 E32-E33",
        "E40-E46 E81-E82 E84 E86-E8A E8C-EA3 EA5 EA7-EB0 EB2-EB3 EBD EC0-EC4 EC6 EDC-EDF",
        "1000-102A 103F 1050-1055 105A-105D 1061 1065-1066 106E-1070 1075-1081 108E 1780-17B3",
        "17D7 17DC 1950-196D 1970-1974 1980-19AB 19B0-19C9 1A20-1A54 1AA7 3031-3035 30FC",
        "A708-A716 A720-A721 A789-A78A A9E0-A9E4 A9E6-A9EF A9FA-A9FE AA60-AA76 AA7A AA7E-AAAF",
        "AAB1 AAB5-AAB6 AAB9-AABD AAC0 AAC2 AADB-AADD AB5B FF70 11700-1171A 11740-11746"]⟩,
    ⟨["cr"], [], [], ["D"]⟩,
    ⟨["doublequote", "dq"], [], [], ["22"]⟩,
    ⟨["extend"], ["emod", "grext", "mc"], [], []⟩,
    ⟨["extendnumlet", "ex"], [], [], ["5F 202F 203F-2040 2054 FE33-FE34 FE4D-FE4F FF3F"]⟩,
    ⟨["format", "fo"], ["cf"], ["grext"], ["600-605 6DD 70F 890-891 8E2 200B 200D 110BD 110CD"]⟩,
    ⟨["hebrewletter", "hl"], [], [],
      ["5D0-5EA 5EF-5F2 FB1D FB1F-FB28 FB2A-FB36 FB38-FB3C FB3E FB40-FB41 FB43-FB44 FB46-FB4F"]⟩,
    ⟨["katakana", "ka"], ["kana"], [], ["3031-3035 309B-309C 30A0 30FC FF70"]⟩,
    ⟨["lf"], [], [], ["A"]⟩,
    ⟨["midletter", "ml"], [], [], ["3A B7 387 55F 5F4 2027 FE13 FE55 FF1A"]⟩,
    ⟨["midnum", "mn"], [], [], ["2C 3B 37E 589 60C-60D 66C 7F8 2044 FE50 FE54 FF0C FF1B"]⟩,
    ⟨["midnumlet", "mb"], [], [], ["2E 2018-2019 2024 FE52 FF07 FF0E"]⟩,
    ⟨["newline", "nl"], [], [], ["B-C 85 2028-2029"]⟩,
    ⟨["numeric", "nu"], ["nd"], [], ["600-605 66B 6DD 890-891 8E2 19DA 110BD 110CD"]⟩,
    ⟨["regionalindicator", "ri"], ["ri"], [], []⟩,
    ⟨["singlequote", "sq"], [], [], ["27"]⟩,
    ⟨["wsegspace"], [], [], ["20 1680 2000-2006 2008-200A 205F 3000"]⟩,
    ⟨["zwj"], [], [], ["200D"]⟩]

def sentences : List BreakClass :=
  [
    ⟨["aterm", "at"], [], [], ["2E 2024 FE52 FF0E"]⟩,
    ⟨["close", "cl"], ["pe", "pf", "pi", "ps"], [],
      ["22 27 275B-2760 2E00-2E01 2E06-2E08 2E0B 1F676-1F678"]⟩,
    ⟨["cr"], [], [], ["D"]⟩,
    ⟨["extend", "ex"], ["grext", "mc"], [], ["200D"]⟩,
    ⟨["format", "fo"], ["cf"], ["grext"], ["600-605 6DD 890-891 8E2 200D 110BD 110CD"]⟩,
    ⟨["lf"], [], [], ["A"]⟩,
    ⟨["lower", "lo"], ["lower"], ["grext"], ["10D0-10FA 10FD-10FF"]⟩,
    ⟨["numeric", "nu"], ["nd"], [], ["600-605 66B-66C 6DD 890-891 8E2 19DA 110BD 110CD"]⟩,
    ⟨["oletter", "le"], ["alpha"], ["grext", "lower", "lt", "mc", "upper"],
      ["5F3 10D0-10FA 10FD-10FF 1C90-1CBA 1CBD-1CBF"]⟩,
    ⟨["scontinue", "sc"], [], [],
      ["2C-2D 3A-3B 37E 55D 60C-60D 7F8 1802 1808 2013-2014 3001 FE10-FE11 FE13-FE14 FE31-FE32",
        "FE50-FE51 FE54-FE55 FE58 FE63 FF0C-FF0D FF1A-FF1B FF64"]⟩,
    ⟨["sep", "se"], [], [], ["85 2028-2029"]⟩,
    ⟨["sp"], [], [], ["9 B-C 20 A0 1680 2000-200A 202F 205F 3000"]⟩,
    ⟨["sterm", "st"], ["sterm"], [], ["2E 2024 FE52 FF0E"]⟩,
    ⟨["upper", "up"], ["lt", "upper"], [], ["1C90-1CBA 1CBD-1CBF"]⟩]

/-- The characters of any of the sets with these names. -/
def anyOf (keys : List String) : CharSet :=
  ofRuns (keys.flatMap fun key => ((ofKey? key).getD empty).runs)

def chars (c : BreakClass) : CharSet :=
  ((anyOf c.inside).diff (anyOf c.outside)).symmDiff (ofTable c.exceptions)

/-- The characters of the class with a name. -/
def ofName? (classes : List BreakClass) (name : String) : Option CharSet :=
  (classes.find? (·.names.contains name)).map chars

/-- The syllables of Hangul that end in a vowel. There are 27 with a consonant at the end after
each. -/
def openSyllables : CharSet :=
  ⟨(List.range 399).map fun k => ⟨0xAC00 + 28 * k, 0xAC00 + 28 * k⟩⟩

/-- The characters of the class with a name among those for the cuts between characters. -/
def ofCharacters? (name : String) : Option CharSet :=
  if name = "lv" then some openSyllables
  else if name = "lvt" then some ((range '\uac00' '\ud7a3').diff openSyllables)
  else ofName? characters name

end BreakClass

end Criteria.CharSet
