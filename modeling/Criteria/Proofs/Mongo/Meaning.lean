import Criteria.Mongo
import Criteria.Proofs.Sql.Meaning

namespace Criteria.Mongo

/-- A test of one field. -/
structure Leaf where
  field : String
  test : Json
  deriving DecidableEq

mutual

/-- The formula of a filter. A key that starts with a dollar sign is no field. -/
def read? : Json → Option (Formula Leaf)
  | .object [(key, j)] =>
    if key = "$not" then (read? j).map .not
    else if key = "$and" then readList? .and j
    else if key = "$or" then readList? .or j
    else if key.toList.head? = some '$' then none
    else some (.atom ⟨key, j⟩)
  | _ => none

def readList? (c : Combinator) : Json → Option (Formula Leaf)
  | .list js =>
    match readAll? js with
    | some (f :: fs) => some (.joined c f fs)
    | _ => none
  | _ => none

def readAll? : List Json → Option (List (Formula Leaf))
  | [] => some []
  | j :: js => do
    let f ← read? j
    let fs ← readAll? js
    some (f :: fs)

end

/-- Whether a filter is read as a formula. -/
def Reads (x : Filter) (f : Formula Leaf) : Prop := read? x.toJson = some f

namespace Reads

variable {x : Filter} {f : Formula Leaf}

theorem field {name : String} (h : name.toList.head? ≠ some '$') (test : Json) :
    Reads (.field name test) (.atom ⟨name, test⟩) := by
  have hne {op : String} (hop : op.toList.head? = some '$') : name ≠ op := by
    rintro rfl
    exact h hop
  rw [Reads, Filter.toJson, read?, if_neg (hne rfl), if_neg (hne rfl), if_neg (hne rfl), if_neg h]

theorem readAll? {xs : List Filter} {fs : List (Formula Leaf)} (h : List.Forall₂ Reads xs fs) :
    readAll? (Filter.toJsons xs) = some fs := by
  induction h with
  | nil => rfl
  | cons hx _ ih =>
    rw [Reads] at hx
    simp only [Filter.toJsons, Mongo.readAll?, hx, ih, Option.bind_eq_bind, Option.bind_some]

theorem joined {xs : List Filter} {fs : List (Formula Leaf)} (h : Reads x f)
    (hs : List.Forall₂ Reads xs fs) (c : Combinator) :
    Reads (match c with | .and => .all (x :: xs) | .or => .any (x :: xs)) (.joined c f fs) := by
  have hall := readAll? (.cons h hs)
  cases c <;> simp [Reads, Filter.toJson, read?, readList?, hall]

theorem not (h : Reads x f) : Reads (.not x) (.not f) := by
  rw [Reads] at h
  rw [Reads, Filter.toJson, read?, if_pos rfl, h, Option.map_some]

theorem join {rest : List (Combinator × Filter)} {gs : List (Combinator × Formula Leaf)}
    (h : Reads x f) (hs : List.Forall₂ (fun x y => x.1 = y.1 ∧ Reads x.2 y.2) rest gs)
    (default : Combinator) : Reads (join default x rest) (.common default f gs) := by
  have hcombinators : rest.map (·.1) = gs.map (·.1) := by
    induction hs with
    | nil => rfl
    | cons hp _ ih => rw [List.map_cons, List.map_cons, hp.1, ih]
  have hreads : List.Forall₂ Reads (rest.map (·.2)) (gs.map (·.2)) := by
    rw [List.forall₂_map_left_iff, List.forall₂_map_right_iff]
    exact hs.imp fun _ _ hp => hp.2
  rw [Formula.common, ← hcombinators]
  cases rest with
  | nil =>
    cases hs
    exact h
  | cons p rest =>
    rw [Mongo.join, ← Combinator.uniform?_getD]
    · exact h.joined hreads _
    · simp

end Reads

theorem related_formula (catalog : Catalog) (options : Options) (m : Condition → Formula Leaf) :
    Rendering.Related (fun x f => Reads x (f.bind m)) (fun x f => Reads x (f.bind m))
      (rendering catalog options) (.formula .common) where
  join h hs := by
    rw [Rendering.formula, Formula.bind_common]
    exact h.join (List.forall₂_map_right_iff.2 hs) _
  nest h := h
  negate h := h.not

end Criteria.Mongo
