import Criteria.Json.Draft
import Criteria.Proofs.Json.Value

namespace Criteria.Json.Draft

mutual

/-- A JSON value as a draft, with `f` for how its numerals are read. -/
def readBy (f : Numeral → Option Numeral) : Json → Draft
  | .null => .null
  | .bool b => .bool b
  | .number n => .number (f n)
  | .text s => .text (some s)
  | .list items => .list (readByItems f items) none
  | .object members => .object (readByMembers f members) none

def readByItems (f : Numeral → Option Numeral) : List Json → List Draft
  | [] => []
  | j :: js => readBy f j :: readByItems f js

def readByMembers (f : Numeral → Option Numeral) :
    List (String × Json) → List (Except Fault String × Draft)
  | [] => []
  | (key, j) :: ms => (.ok key, readBy f j) :: readByMembers f ms

end

mutual

theorem readBy_eq {f : Numeral → Option Numeral} :
    ∀ {j : Json}, (∀ n ∈ j.numerals, f n = some n) → readBy f j = ofJson j
  | .null, _ | .bool _, _ | .text _, _ => rfl
  | .number n, h => by rw [readBy, ofJson, h n (List.mem_singleton_self n)]
  | .list js, h => by rw [readBy, ofJson, readByItems_eq h]
  | .object ms, h => by rw [readBy, ofJson, readByMembers_eq h]

theorem readByItems_eq {f : Numeral → Option Numeral} :
    ∀ {js : List Json}, (∀ n ∈ numeralsOf js, f n = some n) → readByItems f js = ofItems js
  | [], _ => rfl
  | j :: js, h => by
    have hj : readBy f j = ofJson j := readBy_eq fun n hn => h n (List.mem_append_left _ hn)
    have hjs := readByItems_eq fun n hn => h n (List.mem_append_right _ hn)
    rw [readByItems, ofItems, hj, hjs]

theorem readByMembers_eq {f : Numeral → Option Numeral} : ∀ {ms : List (String × Json)},
    (∀ n ∈ numeralsOfMembers ms, f n = some n) → readByMembers f ms = ofMembers ms
  | [], _ => rfl
  | (key, j) :: ms, h => by
    have hj : readBy f j = ofJson j := readBy_eq fun n hn => h n (List.mem_append_left _ hn)
    have hms := readByMembers_eq fun n hn => h n (List.mem_append_right _ hn)
    rw [readByMembers, ofMembers, hj, hms]

end

theorem readBy_some (j : Json) : readBy some j = ofJson j := readBy_eq fun _ _ => rfl

theorem readByItems_some (js : List Json) : readByItems some js = ofItems js :=
  readByItems_eq fun _ _ => rfl

theorem readByItems_eq_map (f : Numeral → Option Numeral) (js : List Json) :
    readByItems f js = js.map (readBy f) := by
  induction js with
  | nil => rfl
  | cons j js ih => rw [readByItems, ih, List.map_cons]

theorem readByMembers_some (ms : List (String × Json)) : readByMembers some ms = ofMembers ms :=
  readByMembers_eq fun _ _ => rfl

theorem skip_readBy (f : Numeral → Option Numeral) (j : Json) : (readBy f j).skip = .ok () := by
  induction j using induct with
  | null | bool | number | text => rfl
  | list js ih =>
    have hitems : skipItems (readByItems f js) = .ok () := by
      induction js with
      | nil => rfl
      | cons j js ihjs =>
        have hj := ih j List.mem_cons_self
        have hjs := ihjs fun k hk => ih k (List.mem_cons_of_mem _ hk)
        simp only [readByItems, skipItems, hj, hjs, bind, Except.bind]
    simp only [readBy, skip, hitems, bind, Except.bind, closed]
  | object ms ih =>
    have hmembers : skipMembers (readByMembers f ms) = .ok () := by
      induction ms with
      | nil => rfl
      | cons m ms ihms =>
        have hm := ih m List.mem_cons_self
        have hms := ihms fun k hk => ih k (List.mem_cons_of_mem _ hk)
        simp only [readByMembers, skipMembers, hm, hms, bind, Except.bind]
    simp only [readBy, skip, hmembers, bind, Except.bind, closed]

theorem depth_readBy (f : Numeral → Option Numeral) (j : Json) :
    (readBy f j).depth = (ofJson j).depth := by
  induction j using induct with
  | null | bool | number | text => rfl
  | list js ih =>
    have hitems : itemsDepth (readByItems f js) = itemsDepth (ofItems js) := by
      induction js with
      | nil => rfl
      | cons j js ihjs =>
        have hjs := ihjs fun k hk => ih k (List.mem_cons_of_mem _ hk)
        rw [readByItems, ofItems, itemsDepth, itemsDepth, hjs, ih j List.mem_cons_self]
    rw [readBy, ofJson, depth, depth, hitems]
  | object ms ih =>
    have hmembers : membersDepth (readByMembers f ms) = membersDepth (ofMembers ms) := by
      induction ms with
      | nil => rfl
      | cons m ms ihms =>
        have hms := ihms fun k hk => ih k (List.mem_cons_of_mem _ hk)
        rw [readByMembers, ofMembers, membersDepth, membersDepth, hms,
          ih m List.mem_cons_self]
    rw [readBy, ofJson, depth, depth, hmembers]

end Criteria.Json.Draft
