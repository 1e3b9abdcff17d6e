import Criteria.Mongo
import Criteria.Proofs.Sql.Like

namespace Criteria.Mongo

/-- A search for a text inside of another one, perhaps at its start or at its end only. -/
structure Search where
  atStart : Bool
  text : List Char
  atEnd : Bool

def Search.Finds (x : Search) (s : List Char) : Prop :=
  ∃ a b, s = a ++ x.text ++ b ∧ (x.atStart = true → a = []) ∧ (x.atEnd = true → b = [])

/-- The characters that a regular expression stands for, and whether the mark for the end follows
them. Nothing if there is more to it. -/
def literals? : List Char → Option (List Char × Bool)
  | [] => some ([], false)
  | c :: cs =>
    if c = '\\' then
      match cs with
      | [] => none
      | d :: ds => if isSpecial d then (literals? ds).map fun p => (d :: p.1, p.2) else none
    else if isSpecial c then
      if c = '$' && cs.isEmpty then some ([], true) else none
    else (literals? cs).map fun p => (c :: p.1, p.2)

/-- A regular expression read as a search for a text. -/
def search? : List Char → Option Search
  | [] => some ⟨false, [], false⟩
  | c :: cs =>
    if c = '^' then (literals? cs).map fun p => ⟨true, p.1, p.2⟩
    else (literals? (c :: cs)).map fun p => ⟨false, p.1, p.2⟩

/-- The regular expression in the filter of a field. -/
def regex? : Json → Option String
  | .object [(_, .object members)] =>
    match members.lookup "$regex" with
    | some (.text p) => some p
    | _ => none
  | _ => none

variable {cs rest : List Char}

theorem literals?_escape (s : String) (rest : List Char) :
    literals? ((escape s).toList ++ rest) =
      (literals? rest).map fun p => (s.toList ++ p.1, p.2) := by
  rw [escape, String.toList_ofList]
  induction s.toList with
  | nil => simp
  | cons c cs ih =>
    rw [List.flatMap_cons, List.append_assoc]
    by_cases hc : isSpecial c = true
    · rw [if_pos hc, List.cons_append, List.singleton_append, literals?.eq_def]
      simp only [if_true, hc, ih, Option.map_map]
      rfl
    · have hbackslash : c ≠ '\\' := fun h => hc (h ▸ by decide)
      rw [if_neg hc, List.singleton_append, literals?.eq_def]
      simp only [if_neg hbackslash, if_neg hc, ih, Option.map_map]
      rfl

theorem head?_escape (s : String) (h : rest.head? ≠ some '^') :
    ((escape s).toList ++ rest).head? ≠ some '^' := by
  rw [escape, String.toList_ofList]
  cases s.toList with
  | nil => exact h
  | cons c cs =>
    rw [List.flatMap_cons]
    split
    · simp
    · next hc =>
      have hstart : c ≠ '^' := fun h => hc (h ▸ by decide)
      simpa using hstart

theorem search?_of_head (h : cs.head? ≠ some '^') :
    search? cs = (literals? cs).map fun p => ⟨false, p.1, p.2⟩ := by
  cases cs with
  | nil => rfl
  | cons c cs =>
    have hc : c ≠ '^' := fun he => h (congrArg some he)
    rw [search?, if_neg hc]

theorem search?_start (cs : List Char) :
    search? ('^' :: cs) = (literals? cs).map fun p => ⟨true, p.1, p.2⟩ := by
  rw [search?, if_pos rfl]

/-- What a condition that matches texts searches for. -/
def searchOf (op : Operator) (v : String) : Search :=
  ⟨op = .startsWith, v.toList, op = .endsWith⟩

theorem finds_searchOf {op : Operator} (h : op.isMatch = true) (v : String) (s : List Char) :
    (searchOf op v).Finds s ↔ op.Finds v.toList s := by
  rcases Operator.isMatch_eq_true h with rfl | rfl | rfl
  · simp [searchOf, Search.Finds, Operator.Finds, List.IsInfix, eq_comm]
  · simp [searchOf, Search.Finds, Operator.Finds, List.IsPrefix, eq_comm]
  · simp [searchOf, Search.Finds, Operator.Finds, List.IsSuffix, eq_comm]

theorem search?_escape (s : String) :
    search? (escape s).toList = some ⟨false, s.toList, false⟩ := by
  have hhead : ((escape s).toList ++ []).head? ≠ some '^' := head?_escape s (by simp)
  have hliterals := literals?_escape s []
  rw [List.append_nil] at hhead hliterals
  rw [search?_of_head hhead, hliterals]
  simp [literals?]

theorem search?_start_escape (s : String) :
    search? ("^" ++ escape s).toList = some ⟨true, s.toList, false⟩ := by
  have hstart : ("^" ++ escape s).toList = '^' :: (escape s).toList := by
    rw [String.toList_append]
    rfl
  have hliterals := literals?_escape s []
  rw [List.append_nil] at hliterals
  rw [hstart, search?_start, hliterals]
  simp [literals?]

theorem search?_escape_end (s : String) :
    search? (escape s ++ "$").toList = some ⟨false, s.toList, true⟩ := by
  have hend : (escape s ++ "$").toList = (escape s).toList ++ ['$'] := by
    rw [String.toList_append]
    rfl
  have hlast : literals? ['$'] = some ([], true) := by decide
  rw [hend, search?_of_head (head?_escape s (by simp)), literals?_escape, hlast, Option.map_some,
    Option.map_some, List.append_nil]

/-- The regular expression of a condition that matches texts is a search for the value as it is. -/
theorem search_condition (catalog : Catalog) (options : Options) {c : Condition}
    (h : c.operator.isMatch = true) :
    ∃ p, regex? (condition catalog options c).toJson = some p ∧
      search? p.toList = some (searchOf c.operator c.value.plain) := by
  have hregex (before after : String) :
      regex? (Filter.field c.field (matching options before c.value after)).toJson =
        some (before ++ escape c.value.plain ++ after) := by
    rw [Filter.toJson, matching]
    cases options.caseInsensitive <;> rfl
  obtain ⟨id, field, operator, value, edge⟩ := c
  rcases Operator.isMatch_eq_true h with rfl | rfl | rfl
  · refine ⟨_, hregex "" "", ?_⟩
    rw [String.empty_append, String.append_empty]
    exact search?_escape value.plain
  · refine ⟨_, hregex "^" "", ?_⟩
    rw [String.append_empty]
    exact search?_start_escape value.plain
  · refine ⟨_, hregex "" "$", ?_⟩
    rw [String.empty_append]
    exact search?_escape_end value.plain

end Criteria.Mongo
