import Criteria.Date.Timestamp
import Criteria.Tree.Lookup
/-!
Named rule trees with their bookkeeping, and a store of them by key.
-/

namespace Criteria

structure SavedQuery where
  name : String
  description : Option String
  tags : List String
  tree : Tree
  createdAt : Timestamp
  updatedAt : Timestamp
  deriving DecidableEq

namespace SavedQuery

/-- A query that is new now. -/
def create (now : Timestamp) (name : String) (tree : Tree) : SavedQuery :=
  ⟨name, none, [], tree, now, now⟩

def touch (now : Timestamp) (q : SavedQuery) : SavedQuery := { q with updatedAt := now }

/-- Puts another tree into the query. -/
def updateTree (now : Timestamp) (tree : Tree) (q : SavedQuery) : SavedQuery :=
  { q with tree, updatedAt := now }

end SavedQuery

/-- Queries by key, in the order of the keys. -/
structure QueryStore where
  entries : List (String × SavedQuery)

namespace QueryStore

def empty : QueryStore := ⟨[]⟩

def keys (s : QueryStore) : List String := s.entries.map (·.1)

def get? (s : QueryStore) (key : String) : Option SavedQuery :=
  (s.entries.find? (·.1 = key)).map (·.2)

def remove (s : QueryStore) (key : String) : QueryStore :=
  ⟨s.entries.filter (·.1 ≠ key)⟩

/-- Puts an entry before the first one whose key is not smaller. -/
def insertEntry (e : String × SavedQuery) : List (String × SavedQuery) → List (String × SavedQuery)
  | [] => [e]
  | f :: fs => if f.1 < e.1 then f :: insertEntry e fs else e :: f :: fs

/-- A key that is blank. -/
structure InvalidKey where
  key : String

namespace InvalidKey

/-- A blank between quotes: the plain space as it is, tabs and line ends by letter, others by
number. -/
def showBlank (c : Char) : List Char :=
  if c = ' ' then [c]
  else if c = '\t' then ['\\', 't']
  else if c = '\n' then ['\\', 'n']
  else if c = '\r' then ['\\', 'r']
  else ['\\', 'u', '\x7b'] ++ Nat.toDigits 16 c.toNat ++ ['\x7d']

def message (e : InvalidKey) : String :=
  "Invalid key: " ++ String.ofList ('"' :: e.key.toList.flatMap showBlank ++ ['"'])

end InvalidKey

/-- Puts a query under a key that is not blank, in place of the one that was there. -/
def put (now : Timestamp) (s : QueryStore) (key : String) (q : SavedQuery) :
    Except InvalidKey QueryStore :=
  if (Text.trim key.toList).isEmpty then .error ⟨key⟩
  else .ok ⟨insertEntry (key, q.touch now) (s.remove key).entries⟩

end QueryStore

end Criteria
