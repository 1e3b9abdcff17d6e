import Criteria.Tree.Lookup
/-!
Ids for new nodes. A generator issues a seed with a counter; a namespace gives the seed by its
CRC-32 checksum in hexadecimal.
-/

namespace Criteria

namespace Checksum

/-- One bit of the reflected CRC-32 division. -/
def stepBit (crc : UInt32) : UInt32 :=
  if crc &&& 1 = 1 then (crc >>> 1) ^^^ 0xEDB88320 else crc >>> 1

def stepByte (crc : UInt32) (byte : UInt8) : UInt32 :=
  (List.range 8).foldl (fun crc _ => stepBit crc) (crc ^^^ byte.toUInt32)

/-- The CRC-32 checksum of a text in UTF-8. -/
def crc32 (s : String) : UInt32 :=
  s.toUTF8.toList.foldl stepByte 0xFFFFFFFF ^^^ 0xFFFFFFFF

/-- A number in lower-case hexadecimal without leading zeros. -/
def hex (n : Nat) : String := String.ofList (Nat.toDigits 16 n)

end Checksum

/-- A source of ids: the seed with a dash and a 64 bit counter. -/
structure IdSource where
  seed : String
  count : Nat
  deriving DecidableEq

namespace IdSource

/-- The counter starts over after this many ids. -/
def period : Nat := Nat.pow 2 64

/-- The namespace of whoever names none. -/
def defaultNamespace : String := "rulecraft"

def seedOf (space : String) : String := Checksum.hex (Checksum.crc32 space).toNat

def ofSeed (seed : String) : IdSource := ⟨seed, 0⟩

def ofNamespace (space : String) : IdSource := ofSeed (seedOf space)

/-- The id of a counter. -/
def idAt (s : IdSource) (n : Nat) : String :=
  s.seed ++ "-" ++ Decimal.natText n

/-- Issues an id. -/
def next (s : IdSource) : String × IdSource :=
  let count := (s.count + 1) % period
  (s.idAt count, { s with count })

/-- A 64 bit counter: digits, perhaps with zeros or a plus sign in front. -/
def counter? (cs : List Char) : Option Nat :=
  let body := match cs with
    | '+' :: cs => cs
    | cs => cs
  match Spelling.spanDigits body with
  | ([], _) | (_, _ :: _) => none
  | (ds, []) =>
    let n := Decimal.ofDigits ds
    if n < period then some n else none

/-- The counter of an id with this seed. -/
def counterOf? (s : IdSource) (id : String) : Option Nat :=
  let start := s.seed.toList ++ ['-']
  let cs := id.toList
  if start.isPrefixOf cs then counter? (cs.drop start.length) else none

/-- Moves the counter past the ids of a tree. -/
def observe (s : IdSource) (t : Tree) : IdSource :=
  { s with count := (t.ids.filterMap s.counterOf?).foldl max s.count }

/-- A source that knows the ids of a tree. -/
def forTree (space : String) (t : Tree) : IdSource := (ofNamespace space).observe t

/-- Issues ids until one is not taken, at most `fuel` of them. -/
def freshWithin : Nat → IdSource → List String → Option (String × IdSource)
  | 0, _, _ => none
  | fuel + 1, s, taken =>
    let (id, s) := s.next
    if taken.contains id then freshWithin fuel s taken else some (id, s)

/-- An id with this seed that is longer than every taken one. -/
def spare (s : IdSource) (taken : List String) : String :=
  s.seed ++ "-" ++ String.ofList (List.replicate ((taken.map String.length).foldr (· + ·) 0) '0')

/-- An id that is not taken. One more draw than there are ids taken is enough, since the draws
differ, unless a whole period of ids is taken; a search for a counter would not end then, and the
spare id stands in. -/
def fresh (s : IdSource) (taken : List String) : String × IdSource :=
  (s.freshWithin (taken.length + 1) taken).getD (s.spare taken, s)

end IdSource

end Criteria
