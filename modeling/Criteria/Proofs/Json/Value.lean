import Criteria.Json

namespace Criteria.Json

/-- Induction over a value by the items of its lists and the members of its objects. -/
@[elab_as_elim]
theorem induct {motive : Json → Prop} (null : motive .null) (bool : ∀ b, motive (.bool b))
    (number : ∀ n, motive (.number n)) (text : ∀ s, motive (.text s))
    (list : ∀ js, (∀ j ∈ js, motive j) → motive (.list js))
    (object : ∀ ms, (∀ m ∈ ms, motive m.2) → motive (.object ms)) : ∀ j, motive j
  | .null => null
  | .bool b => bool b
  | .number n => number n
  | .text s => text s
  | .list js => list js fun j hj =>
    have : sizeOf j < sizeOf js := List.sizeOf_lt_of_mem hj
    induct null bool number text list object j
  | .object ms => object ms fun m hm =>
    have : sizeOf m < sizeOf ms := List.sizeOf_lt_of_mem hm
    have : sizeOf m.2 < sizeOf m := by
      cases m
      simp only [Prod.mk.sizeOf_spec]
      omega
    induct null bool number text list object m.2

mutual

/-- The numerals of a value. -/
def numerals : Json → List Numeral
  | .number n => [n]
  | .list js => numeralsOf js
  | .object ms => numeralsOfMembers ms
  | _ => []

def numeralsOf : List Json → List Numeral
  | [] => []
  | j :: js => j.numerals ++ numeralsOf js

def numeralsOfMembers : List (String × Json) → List Numeral
  | [] => []
  | (_, j) :: ms => j.numerals ++ numeralsOfMembers ms

end

theorem mem_numeralsOf {n : Numeral} {js : List Json} :
    n ∈ numeralsOf js ↔ ∃ j ∈ js, n ∈ j.numerals := by
  induction js with
  | nil => simp [numeralsOf]
  | cons j js ih => simp [numeralsOf, ih]

theorem mem_numeralsOfMembers {n : Numeral} {ms : List (String × Json)} :
    n ∈ numeralsOfMembers ms ↔ ∃ m ∈ ms, n ∈ m.2.numerals := by
  induction ms with
  | nil => simp [numeralsOfMembers]
  | cons m ms ih => simp [numeralsOfMembers, ih]

@[simp] theorem numeralsOfMembers_append (ms ns : List (String × Json)) :
    numeralsOfMembers (ms ++ ns) = numeralsOfMembers ms ++ numeralsOfMembers ns := by
  induction ms with
  | nil => rfl
  | cons m ms ih => simp only [List.cons_append, numeralsOfMembers, ih, List.append_assoc]

@[simp] theorem mem_numerals_optional {α : Type} {key : String} {f : α → Json} {o : Option α}
    {n : Numeral} :
    n ∈ numeralsOfMembers (optional key f o) ↔ ∃ a, o = some a ∧ n ∈ (f a).numerals := by
  cases o <;> simp [optional, numeralsOfMembers]

theorem mem_optional {α : Type} {key : String} {f : α → Json} {o : Option α} {m : String × Json} :
    m ∈ optional key f o ↔ ∃ a, o = some a ∧ m = (key, f a) := by
  cases o <;> simp [optional]

theorem numeralsOf_map {α : Type} {f : α → Json} (h : ∀ a, (f a).numerals = []) (as : List α) :
    numeralsOf (as.map f) = [] := by
  induction as with
  | nil => rfl
  | cons a as ih => rw [List.map_cons, numeralsOf, h, ih, List.append_nil]

theorem mem_insertMember {m k : String × Json} {ms : List (String × Json)} :
    k ∈ insertMember m ms ↔ k = m ∨ k ∈ ms := by
  induction ms with
  | nil => simp [insertMember]
  | cons n ns ih =>
    rw [insertMember]
    split
    · simp only [List.mem_cons, ih]
      exact or_left_comm
    · simp only [List.mem_cons]

theorem mem_sortedItems {k : Json} {js : List Json} :
    k ∈ sortedItems js ↔ ∃ j ∈ js, k = j.sorted := by
  induction js with
  | nil => simp [sortedItems]
  | cons j js ih => simp [sortedItems, ih]

theorem mem_sortedMembers {k : String × Json} {ms : List (String × Json)} :
    k ∈ sortedMembers ms ↔ ∃ m ∈ ms, k = (m.1, m.2.sorted) := by
  induction ms with
  | nil => simp [sortedMembers]
  | cons m ms ih => simp [sortedMembers, mem_insertMember, ih]

theorem sortedItems_eq (js : List Json) : sortedItems js = js.map sorted := by
  induction js with
  | nil => rfl
  | cons j js ih => rw [sortedItems, ih, List.map_cons]

theorem insertMember_split (m : String × Json) (ms : List (String × Json)) :
    ∃ before after, insertMember m ms = before ++ m :: after ∧ before ++ after = ms := by
  induction ms with
  | nil => exact ⟨[], [], rfl, rfl⟩
  | cons n ns ih =>
    obtain ⟨before, after, hinsert, hms⟩ := ih
    rw [insertMember]
    split
    · exact ⟨n :: before, after, by rw [hinsert, List.cons_append], by rw [List.cons_append, hms]⟩
    · exact ⟨[], n :: ns, rfl, rfl⟩

theorem mem_numerals_sorted {n : Numeral} (j : Json) : n ∈ j.sorted.numerals ↔ n ∈ j.numerals := by
  induction j using induct with
  | null | bool | number | text => rfl
  | list js ih =>
    simp only [sorted, numerals, mem_numeralsOf, mem_sortedItems]
    constructor
    · rintro ⟨_, ⟨j, hj, rfl⟩, hn⟩
      exact ⟨j, hj, (ih j hj).1 hn⟩
    · rintro ⟨j, hj, hn⟩
      exact ⟨j.sorted, ⟨j, hj, rfl⟩, (ih j hj).2 hn⟩
  | object ms ih =>
    simp only [sorted, numerals, mem_numeralsOfMembers, mem_sortedMembers]
    constructor
    · rintro ⟨_, ⟨m, hm, rfl⟩, hn⟩
      exact ⟨m, hm, (ih m hm).1 hn⟩
    · rintro ⟨m, hm, hn⟩
      exact ⟨_, ⟨m, hm, rfl⟩, (ih m hm).2 hn⟩

/-- The value as it is, or with the members of all objects in the order of their keys. -/
def arranged (sort : Bool) (j : Json) : Json := if sort then j.sorted else j

def arrangedMembers (sort : Bool) (ms : List (String × Json)) : List (String × Json) :=
  if sort then sortedMembers ms else ms

theorem arranged_object (sort : Bool) (ms : List (String × Json)) :
    arranged sort (.object ms) = .object (arrangedMembers sort ms) := by
  cases sort <;> rfl

theorem arranged_list (sort : Bool) (js : List Json) :
    arranged sort (.list js) = .list (js.map (arranged sort)) := by
  cases sort with
  | false => exact congrArg list (List.map_id js).symm
  | true => exact congrArg list (sortedItems_eq js)

theorem mem_arrangedMembers {sort : Bool} {k : String × Json} {ms : List (String × Json)} :
    k ∈ arrangedMembers sort ms ↔ ∃ m ∈ ms, k = (m.1, m.2.arranged sort) := by
  cases sort with
  | false => simp [arrangedMembers, arranged]
  | true => exact mem_sortedMembers

theorem arrangedMembers_cons (sort : Bool) (m : String × Json) (ms : List (String × Json)) :
    ∃ before after, arrangedMembers sort (m :: ms) = before ++ (m.1, m.2.arranged sort) :: after ∧
      before ++ after = arrangedMembers sort ms := by
  cases sort with
  | false => exact ⟨[], ms, rfl, rfl⟩
  | true => exact insertMember_split (m.1, m.2.sorted) (sortedMembers ms)

theorem mem_numerals_arranged {sort : Bool} {n : Numeral} {j : Json} :
    n ∈ (j.arranged sort).numerals ↔ n ∈ j.numerals := by
  cases sort with
  | false => rfl
  | true => exact mem_numerals_sorted j

end Criteria.Json
