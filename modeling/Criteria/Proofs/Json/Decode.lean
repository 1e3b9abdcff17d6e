import Criteria.Json.Decoder
import Criteria.Proofs.Json.Draft
import Mathlib.Data.List.Forall2

namespace Criteria.Json

theorem exists_ok_of_bind {ε α β : Type} {e : Except ε α} {g : α → Except ε β} {b : β}
    (h : e.bind g = .ok b) : ∃ a, e = .ok a ∧ g a = .ok b := by
  cases e with
  | error fault => cases h
  | ok a => exact ⟨a, rfl, h⟩

theorem exists_ok_of_map {ε α β : Type} {e : Except ε α} {g : α → β} {b : β}
    (h : e.map g = .ok b) : ∃ a, e = .ok a ∧ g a = b := by
  cases e with
  | error fault => cases h
  | ok a => exact ⟨a, rfl, Except.ok.inj h⟩

/-- At most so many lists and objects of the value lie around one another. -/
def Fits (levels : Nat) (j : Json) : Prop := (Draft.ofJson j).depth ≤ levels

theorem fits_list {levels : Nat} {js : List Json} :
    Fits levels (.list js) ↔ ∃ l, levels = l + 1 ∧ ∀ j ∈ js, Fits l j := by
  have hitems : ∀ l, Draft.itemsDepth (Draft.ofItems js) ≤ l ↔ ∀ j ∈ js, Fits l j := by
    intro l
    induction js with
    | nil => simp [Draft.ofItems, Draft.itemsDepth]
    | cons j js ih =>
      simp only [Draft.ofItems, Draft.itemsDepth, Nat.max_le, ih, List.forall_mem_cons]
      rfl
  rw [Fits, Draft.ofJson, Draft.depth]
  cases levels with
  | zero => simp
  | succ l => simp [hitems]

theorem fits_object {levels : Nat} {ms : List (String × Json)} :
    Fits levels (.object ms) ↔ ∃ l, levels = l + 1 ∧ ∀ m ∈ ms, Fits l m.2 := by
  have hmembers : ∀ l, Draft.membersDepth (Draft.ofMembers ms) ≤ l ↔ ∀ m ∈ ms, Fits l m.2 := by
    intro l
    induction ms with
    | nil => simp [Draft.ofMembers, Draft.membersDepth]
    | cons m ms ih =>
      simp only [Draft.ofMembers, Draft.membersDepth, Nat.max_le, ih, List.forall_mem_cons]
      rfl
  rw [Fits, Draft.ofJson, Draft.depth]
  cases levels with
  | zero => simp
  | succ l => simp [hmembers]

theorem fits_object_succ {levels : Nat} {ms : List (String × Json)} :
    Fits (levels + 1) (.object ms) ↔ ∀ m ∈ ms, Fits levels m.2 := by
  rw [fits_object]
  constructor
  · rintro ⟨l, hl, h⟩
    cases hl
    exact h
  · exact fun h => ⟨levels, rfl, h⟩

theorem fits_list_map {α : Type} {levels : Nat} {encode : α → Json} {as : List α}
    (h : ∀ a ∈ as, Fits levels (encode a)) : Fits (levels + 1) (.list (as.map encode)) := by
  refine fits_list.2 ⟨levels, rfl, ?_⟩
  intro j hj
  obtain ⟨a, ha, rfl⟩ := List.mem_map.1 hj
  exact h a ha

theorem fits_optional {α : Type} {levels : Nat} {key : String} {encode : α → Json} {o : Option α}
    (h : ∀ a, Fits levels (encode a)) : ∀ m ∈ optional key encode o, Fits levels m.2 := by
  intro m hm
  obtain ⟨a, -, rfl⟩ := mem_optional.1 hm
  exact h a

theorem fits_sorted {levels : Nat} (j : Json) : Fits levels j.sorted ↔ Fits levels j := by
  induction j using induct generalizing levels with
  | null | bool | number | text => rfl
  | list js ih =>
    rw [sorted, fits_list, fits_list]
    constructor
    · rintro ⟨l, hl, h⟩
      exact ⟨l, hl, fun j hj => (ih j hj).1 (h j.sorted (mem_sortedItems.2 ⟨j, hj, rfl⟩))⟩
    · rintro ⟨l, hl, h⟩
      refine ⟨l, hl, fun k hk => ?_⟩
      obtain ⟨j, hj, rfl⟩ := mem_sortedItems.1 hk
      exact (ih j hj).2 (h j hj)
  | object ms ih =>
    rw [sorted, fits_object, fits_object]
    constructor
    · rintro ⟨l, hl, h⟩
      refine ⟨l, hl, fun m hm => (ih m hm).1 ?_⟩
      exact h (m.1, m.2.sorted) (mem_sortedMembers.2 ⟨m, hm, rfl⟩)
    · rintro ⟨l, hl, h⟩
      refine ⟨l, hl, fun k hk => ?_⟩
      obtain ⟨m, hm, rfl⟩ := mem_sortedMembers.1 hk
      exact (ih m hm).2 (h m hm)

namespace Draft

theorem itemsToJson_ofItems {levels : Nat} {js : List Json}
    (h : ∀ j ∈ js, (ofJson j).toJson levels = .ok j) :
    itemsToJson levels (ofItems js) = .ok js := by
  induction js with
  | nil => rfl
  | cons j js ih =>
    have hj := h j List.mem_cons_self
    have hjs := ih fun k hk => h k (List.mem_cons_of_mem _ hk)
    simp only [ofItems, itemsToJson, hj, hjs]
    rfl

theorem membersToJson_ofMembers {levels : Nat} {ms : List (String × Json)}
    (h : ∀ m ∈ ms, (ofJson m.2).toJson levels = .ok m.2) :
    membersToJson levels (ofMembers ms) = .ok ms := by
  induction ms with
  | nil => rfl
  | cons m ms ih =>
    have hm := h m List.mem_cons_self
    have hms := ih fun k hk => h k (List.mem_cons_of_mem _ hk)
    simp only [ofMembers, membersToJson, hm, hms]
    rfl

theorem toJson_ofJson {levels : Nat} {j : Json} (h : Fits levels j) :
    (ofJson j).toJson levels = .ok j := by
  induction j using induct generalizing levels with
  | null | bool | number | text => rfl
  | list js ih =>
    obtain ⟨l, rfl, hfits⟩ := fits_list.1 h
    have hitems := itemsToJson_ofItems fun j hj => ih j hj (hfits j hj)
    simp only [ofJson, toJson, hitems]
    rfl
  | object ms ih =>
    obtain ⟨l, rfl, hfits⟩ := fits_object.1 h
    have hmembers := membersToJson_ofMembers fun m hm => ih m hm (hfits m hm)
    simp only [ofJson, toJson, hmembers]
    rfl

theorem toJson_readBy (f : Numeral → Option Numeral) (j : Json) (levels : Nat) :
    (readBy f j).toJson levels = .error .malformed ∨
      Fits levels j ∧ ∃ k, (readBy f j).toJson levels = .ok k := by
  induction j using induct generalizing levels with
  | null => exact .inr ⟨Nat.zero_le _, _, rfl⟩
  | bool b => exact .inr ⟨Nat.zero_le _, _, rfl⟩
  | text s => exact .inr ⟨Nat.zero_le _, _, rfl⟩
  | number n =>
    rw [readBy]
    cases f n with
    | none => exact .inl rfl
    | some m => exact .inr ⟨Nat.zero_le _, _, rfl⟩
  | list js ih =>
    cases levels with
    | zero => exact .inl rfl
    | succ l =>
      have hitems : itemsToJson l (readByItems f js) = .error .malformed ∨
          (∀ j ∈ js, Fits l j) ∧ ∃ ks, itemsToJson l (readByItems f js) = .ok ks := by
        induction js with
        | nil => exact .inr ⟨fun _ h => absurd h List.not_mem_nil, _, rfl⟩
        | cons j js ihjs =>
          simp only [readByItems, itemsToJson, bind, Except.bind]
          rcases ih j List.mem_cons_self l with hj | ⟨hfits, k, hj⟩
          · exact .inl (by rw [hj])
          · rcases ihjs fun k hk => ih k (List.mem_cons_of_mem _ hk) with hjs | ⟨hall, ks, hjs⟩
            · exact .inl (by rw [hj, hjs])
            · exact .inr ⟨List.forall_mem_cons.2 ⟨hfits, hall⟩, k :: ks, by rw [hj, hjs]; rfl⟩
      simp only [readBy, toJson, bind, Except.bind]
      rcases hitems with hjs | ⟨hall, ks, hjs⟩
      · exact .inl (by rw [hjs])
      · exact .inr ⟨fits_list.2 ⟨l, rfl, hall⟩, .list ks, by rw [hjs]; rfl⟩
  | object ms ih =>
    cases levels with
    | zero => exact .inl rfl
    | succ l =>
      have hmembers : membersToJson l (readByMembers f ms) = .error .malformed ∨
          (∀ m ∈ ms, Fits l m.2) ∧ ∃ ks, membersToJson l (readByMembers f ms) = .ok ks := by
        induction ms with
        | nil => exact .inr ⟨fun _ h => absurd h List.not_mem_nil, _, rfl⟩
        | cons m ms ihms =>
          simp only [readByMembers, membersToJson, key, id_eq, bind, Except.bind]
          rcases ih m List.mem_cons_self l with hm | ⟨hfits, k, hm⟩
          · exact .inl (by rw [hm])
          · rcases ihms fun k hk => ih k (List.mem_cons_of_mem _ hk) with hms | ⟨hall, ks, hms⟩
            · exact .inl (by rw [hm, hms])
            · exact .inr
                ⟨List.forall_mem_cons.2 ⟨hfits, hall⟩, (m.1, k) :: ks, by rw [hm, hms]; rfl⟩
      simp only [readBy, toJson, bind, Except.bind]
      rcases hmembers with hms | ⟨hall, ks, hms⟩
      · exact .inl (by rw [hms])
      · exact .inr ⟨fits_object.2 ⟨l, rfl, hall⟩, .object ks, by rw [hms]; rfl⟩

theorem fits_of_toJson {f : Numeral → Option Numeral} {levels : Nat} {j k : Json}
    (h : (readBy f j).toJson levels = .ok k) : Fits levels j := by
  rcases toJson_readBy f j levels with hfault | ⟨hfits, -⟩
  · cases h.symm.trans hfault
  · exact hfits

theorem fits_of_membersToJson {f : Numeral → Option Numeral} {levels : Nat}
    {ms ks : List (String × Json)} (h : membersToJson levels (readByMembers f ms) = .ok ks) :
    ∀ m ∈ ms, Fits levels m.2 := by
  have hread : (readBy f (.object ms)).toJson (levels + 1) = .ok (.object ks) := by
    simp only [readBy, toJson, h, bind, Except.bind, closed]
    rfl
  exact fits_object_succ.1 (fits_of_toJson hread)

end Draft

theorem fits_arranged {sort : Bool} {levels : Nat} {j : Json} :
    Fits levels (j.arranged sort) ↔ Fits levels j := by
  cases sort with
  | false => rfl
  | true => exact fits_sorted j

/-- The keys of the members of an object. -/
def keys (ms : List (String × Json)) : List String := ms.map (·.1)

@[simp] theorem keys_nil : keys [] = [] := rfl

@[simp] theorem keys_cons (m : String × Json) (ms : List (String × Json)) :
    keys (m :: ms) = m.1 :: keys ms := rfl

@[simp] theorem keys_append (ms ns : List (String × Json)) : keys (ms ++ ns) = keys ms ++ keys ns :=
  List.map_append

@[simp] theorem mem_keys_optional {α : Type} {k key : String} {f : α → Json} {o : Option α} :
    k ∈ keys (optional key f o) ↔ o.isSome ∧ k = key := by
  cases o <;> simp [optional]

@[simp] theorem mem_keys_ite {k : String} {p : Prop} [Decidable p] {ms : List (String × Json)} :
    k ∈ keys (if p then ms else []) ↔ p ∧ k ∈ keys ms := by
  split <;> simp_all

@[simp] theorem mem_keys_unless {k : String} {p : Prop} [Decidable p] {ms : List (String × Json)} :
    k ∈ keys (if p then [] else ms) ↔ ¬ p ∧ k ∈ keys ms := by
  split <;> simp_all

theorem ne_of_not_mem_keys {key : String} {ms : List (String × Json)} (h : key ∉ keys ms) :
    ∀ m ∈ ms, m.1 ≠ key := by
  intro m hm hkey
  exact h (hkey ▸ List.mem_map_of_mem hm)

theorem mem_keys_arranged {sort : Bool} {k : String} {ms : List (String × Json)} :
    k ∈ keys (arrangedMembers sort ms) ↔ k ∈ keys ms := by
  simp only [keys, List.mem_map, mem_arrangedMembers]
  constructor
  · rintro ⟨_, ⟨m, hm, rfl⟩, hk⟩
    exact ⟨m, hm, hk⟩
  · rintro ⟨m, hm, hk⟩
    exact ⟨_, ⟨m, hm, rfl⟩, hk⟩

namespace Decoder

section members

variable {σ : Type} {slots : List (Slot σ)} {source : Source} {levels : Nat}
variable {f : Numeral → Option Numeral} {ms : List (String × Json)} {parts : σ}

theorem members_seen {seen seen' : List String} (h : ∀ m ∈ ms, m.1 ∈ seen ↔ m.1 ∈ seen') :
    members slots source levels (Draft.readByMembers f ms) seen parts
      = members slots source levels (Draft.readByMembers f ms) seen' parts := by
  induction ms generalizing seen seen' parts with
  | nil => rfl
  | cons m ms ih =>
    have htail := fun k hk => h k (List.mem_cons_of_mem m hk)
    have hsame : seen.contains m.1 = seen'.contains m.1 := by
      rw [Bool.eq_iff_iff, List.contains_iff_mem, List.contains_iff_mem]
      exact h m List.mem_cons_self
    have hcons : ∀ p, members slots source levels (Draft.readByMembers f ms) (m.1 :: seen) p
        = members slots source levels (Draft.readByMembers f ms) (m.1 :: seen') p := by
      intro p
      apply ih
      intro k hk
      rw [List.mem_cons, List.mem_cons, htail k hk]
    simp only [Draft.readByMembers, members, Draft.key, id_eq, bind, Except.bind, hsame, hcons,
      ih htail]

theorem find_slot {α : Type} (key : String) (decode : Decoder α) (put : α → σ → σ) :
    (.of key decode put :: slots).find? (·.name = key) = some (.of key decode put) :=
  List.find?_cons_of_pos (decide_eq_true rfl)

theorem find_later_slot {α : Type} {key other : String} {decode : Decoder α} {put : α → σ → σ}
    (h : other ≠ key) :
    (.of other decode put :: slots).find? (·.name = key) = slots.find? (·.name = key) :=
  List.find?_cons_of_neg (Bool.eq_false_iff.1 (decide_eq_false h))

/-- A field is read into its place; what follows does not come back to it. -/
theorem members_cons {α : Type} (key : String) {j : Json} {decode : Decoder α} {put : α → σ → σ}
    {a : α} (hfind : slots.find? (·.name = key) = some (.of key decode put))
    (hfresh : key ∉ keys ms) (hdecode : decode source levels (Draft.readBy f j) = .ok a) :
    members slots source levels (Draft.readByMembers f ((key, j) :: ms)) [] parts
      = members slots source levels (Draft.readByMembers f ms) [] (put a parts) := by
  have hseen : ∀ p, members slots source levels (Draft.readByMembers f ms) [key] p
      = members slots source levels (Draft.readByMembers f ms) [] p := by
    intro p
    apply members_seen
    intro m hm
    simp [ne_of_not_mem_keys hfresh m hm]
  simp only [Draft.readByMembers, members, Draft.key, id_eq, bind, Except.bind]
  rw [hfind]
  simp only [List.contains_nil, Bool.false_eq_true, if_false, Slot.of, hdecode, Except.map, hseen]

theorem members_fault {α : Type} (key : String) {j : Json} {decode : Decoder α} {put : α → σ → σ}
    {fault : Fault} (hfind : slots.find? (·.name = key) = some (.of key decode put))
    (hdecode : decode source levels (Draft.readBy f j) = .error fault) :
    members slots source levels (Draft.readByMembers f ((key, j) :: ms)) [] parts
      = .error fault := by
  simp only [Draft.readByMembers, members, Draft.key, id_eq, bind, Except.bind]
  rw [hfind]
  simp only [List.contains_nil, Bool.false_eq_true, if_false, Slot.of, hdecode, Except.map]

/-- What a field that may be left out is read as. -/
def readPart {α β : Type} (decode : Decoder (Option β)) (source : Source) (levels : Nat)
    (f : Numeral → Option Numeral) (encode : α → Json) (o : Option α) : Except Fault (Option β) :=
  o.elim (.ok none) fun a => decode source levels (Draft.readBy f (encode a))

theorem readPart_eq_ok {α β : Type} {decode : Decoder β} {encode : α → Json} {o : Option α}
    {p : Option β} {R : α → β → Prop}
    (hsome : ∀ a, option decode source levels (Draft.readBy f (encode a))
      = (decode source levels (Draft.readBy f (encode a))).map some)
    (hR : ∀ a ∈ o, ∀ b, decode source levels (Draft.readBy f (encode a)) = .ok b ↔ R a b) :
    readPart (option decode) source levels f encode o = .ok p ↔ Option.Rel R o p := by
  cases o with
  | none =>
    rw [readPart, Option.elim_none, Except.ok.injEq]
    constructor
    · rintro rfl
      exact .none
    · rintro ⟨⟩
      rfl
  | some a =>
    rw [readPart, Option.elim_some, hsome]
    constructor
    · intro h
      obtain ⟨b, hb, rfl⟩ := exists_ok_of_map h
      exact .some ((hR a rfl b).1 hb)
    · rintro ⟨hb⟩
      rw [(hR a rfl _).2 hb]
      rfl

theorem members_part {α β : Type} (key : String) {encode : α → Json} {o : Option α} {b : Option β}
    {decode : Decoder (Option β)} {put : Option β → σ → σ}
    (hfind : slots.find? (·.name = key) = some (.of key decode put)) (hfresh : key ∉ keys ms)
    (hread : readPart decode source levels f encode o = .ok b) (hput : put none parts = parts) :
    members slots source levels (Draft.readByMembers f (optional key encode o ++ ms)) [] parts
      = members slots source levels (Draft.readByMembers f ms) [] (put b parts) := by
  cases o with
  | none =>
    cases hread
    rw [hput, optional, List.nil_append]
  | some a => exact members_cons key hfind hfresh hread

theorem members_part_fault {α β : Type} (key : String) {encode : α → Json} {o : Option α}
    {fault : Fault} {decode : Decoder (Option β)} {put : Option β → σ → σ}
    (hfind : slots.find? (·.name = key) = some (.of key decode put))
    (hread : readPart decode source levels f encode o = .error fault) :
    members slots source levels (Draft.readByMembers f (optional key encode o ++ ms)) [] parts
      = .error fault := by
  cases o with
  | none => cases hread
  | some a => exact members_fault key hfind hread

theorem members_optional {α : Type} (key : String) {encode : α → Json} {o : Option α}
    {decode : Decoder (Option α)} {put : Option α → σ → σ}
    (hfind : slots.find? (·.name = key) = some (.of key decode put))
    (hfresh : key ∉ keys ms)
    (hdecode : ∀ a, decode source levels (Draft.readBy f (encode a)) = .ok (some a))
    (hput : put none parts = parts) :
    members slots source levels (Draft.readByMembers f (optional key encode o ++ ms)) [] parts
      = members slots source levels (Draft.readByMembers f ms) [] (put o parts) := by
  apply members_part key hfind hfresh _ hput
  cases o with
  | none => rfl
  | some a => exact hdecode a

theorem members_flag (key : String) (b : Bool) {put : Bool → σ → σ}
    (hfind : slots.find? (·.name = key) = some (.of key bool put))
    (hfresh : key ∉ keys ms) (hput : put false parts = parts) :
    members slots source levels
        (Draft.readByMembers f ((if b then [(key, Json.bool true)] else []) ++ ms)) [] parts
      = members slots source levels (Draft.readByMembers f ms) [] (put b parts) := by
  cases b with
  | false => rw [hput, if_neg Bool.false_ne_true, List.nil_append]
  | true => exact members_cons key hfind hfresh rfl

theorem members_unless {α : Type} (key : String) {p : Prop} [Decidable p] {j : Json}
    {decode : Decoder α} {put : α → σ → σ} {a : α}
    (hfind : slots.find? (·.name = key) = some (.of key decode put)) (hfresh : key ∉ keys ms)
    (hdecode : ¬ p → decode source levels (Draft.readBy f j) = .ok a)
    (hput : p → put a parts = parts) :
    members slots source levels
        (Draft.readByMembers f ((if p then [] else [(key, j)]) ++ ms)) [] parts
      = members slots source levels (Draft.readByMembers f ms) [] (put a parts) := by
  split
  · next hp => rw [hput hp, List.nil_append]
  · next hp => exact members_cons key hfind hfresh (hdecode hp)

theorem members_unknown {seen : List String}
    (h : ∀ m ∈ ms, slots.find? (·.name = m.1) = none) :
    members slots source levels (Draft.readByMembers f ms) seen parts = .ok parts := by
  induction ms with
  | nil => rfl
  | cons m ms ih =>
    have hm := h m List.mem_cons_self
    have hms := ih fun k hk => h k (List.mem_cons_of_mem _ hk)
    simp only [Draft.readByMembers, members, Draft.key, id_eq, bind, Except.bind, hm, hms,
      Draft.skip_readBy]

end members

section lists

variable {α : Type} {source : Source} {levels : Nat} {js : List Json} {as : List α}

theorem items_eq_ok {decode : Draft → Except Fault α} {ds : List Draft} :
    items decode ds = .ok as ↔ List.Forall₂ (fun d a => decode d = .ok a) ds as := by
  induction ds generalizing as with
  | nil =>
    rw [items, Except.ok.injEq, List.forall₂_nil_left_iff]
    exact eq_comm
  | cons d ds ih =>
    rw [List.forall₂_cons_left_iff]
    constructor
    · intro h
      obtain ⟨b, hb, h⟩ := exists_ok_of_bind h
      obtain ⟨bs, hbs, he⟩ := exists_ok_of_bind h
      cases he
      exact ⟨b, bs, hb, ih.1 hbs, rfl⟩
    · rintro ⟨b, bs, hb, hbs, rfl⟩
      simp only [items, hb, ih.2 hbs]
      rfl

theorem items_ofItems {decode : Draft → Except Fault α}
    (h : List.Forall₂ (fun j a => decode (Draft.ofJson j) = .ok a) js as) :
    items decode (Draft.ofItems js) = .ok as := by
  rw [← Draft.readByItems_some, Draft.readByItems_eq_map, items_eq_ok, List.forall₂_map_left_iff]
  simp only [Draft.readBy_some]
  exact h

theorem list_eq_ok {decode : Decoder α} {f : Numeral → Option Numeral} :
    list decode source (levels + 1) (Draft.readBy f (.list js)) = .ok as ↔
      List.Forall₂ (fun j a => decode source levels (Draft.readBy f j) = .ok a) js as := by
  have hitems : items (decode source levels) (Draft.readByItems f js) = .ok as ↔
      List.Forall₂ (fun j a => decode source levels (Draft.readBy f j) = .ok a) js as := by
    rw [Draft.readByItems_eq_map, items_eq_ok, List.forall₂_map_left_iff]
  rw [← hitems, Draft.readBy, list]
  cases items (decode source levels) (Draft.readByItems f js) with
  | error fault => exact iff_of_false nofun nofun
  | ok bs => rfl

end lists

section records

variable {σ : Type} {slots : List (Slot σ)} {P : σ → Prop}

theorem members_invariant {source : Source} {levels : Nat}
    (hslots : ∀ s ∈ slots, ∀ d p q, P p → s.decode source levels d p = .ok q → P q)
    {ms : List (Except Fault String × Draft)} {seen : List String} {p q : σ} (hp : P p)
    (h : members slots source levels ms seen p = .ok q) : P q := by
  induction ms generalizing seen p with
  | nil =>
    cases h
    exact hp
  | cons m ms ih =>
    obtain ⟨key, d⟩ := m
    obtain ⟨name, -, h⟩ := exists_ok_of_bind h
    dsimp only at h
    split at h
    · obtain ⟨-, -, h⟩ := exists_ok_of_bind h
      exact ih hp h
    · next s hfind =>
      split at h
      · cases h
      · obtain ⟨p', hdecode, h⟩ := exists_ok_of_bind h
        exact ih (hslots s (List.mem_of_find?_eq_some hfind) d p p' hp hdecode) h

theorem positions_invariant {source : Source} {levels : Nat} {ending : Option Fault}
    (hslots : ∀ s ∈ slots, ∀ d p q, P p → s.decode source levels d p = .ok q → P q)
    {ds : List Draft} {p q : σ} (hp : P p)
    (h : positions source levels ending slots ds p = .ok q) : P q := by
  induction ds generalizing slots p with
  | nil =>
    rw [positions] at h
    obtain ⟨-, -, h⟩ := exists_ok_of_bind h
    split at h
    · cases h
    · cases h
      exact hp
  | cons d ds ih =>
    cases slots with
    | nil => cases h
    | cons s slots =>
      obtain ⟨p', hdecode, h⟩ := exists_ok_of_bind h
      have hp' : P p' := hslots s List.mem_cons_self d p p' hp hdecode
      exact ih (fun t ht => hslots t (List.mem_cons_of_mem _ ht)) hp' h

theorem record_invariant {α : Type} {start : σ} {finish : σ → Option α} {source : Source}
    {levels : Nat} {d : Draft} {a : α} (hstart : P start)
    (hslots : ∀ levels, ∀ s ∈ slots, ∀ d p q, P p → s.decode source levels d p = .ok q → P q)
    (h : record slots start finish source levels d = .ok a) : ∃ p, P p ∧ finish p = some a := by
  rw [record.eq_def] at h
  split at h
  · cases h
  · cases h
  · obtain ⟨p, hp, h⟩ := exists_ok_of_bind h
    obtain ⟨-, -, h⟩ := exists_ok_of_bind h
    split at h
    · next b hfinish =>
      cases h
      exact ⟨p, members_invariant (hslots _) hstart hp, hfinish⟩
    · cases h
  · obtain ⟨p, hp, h⟩ := exists_ok_of_bind h
    split at h
    · next b hfinish =>
      cases h
      exact ⟨p, positions_invariant (hslots _) hstart hp, hfinish⟩
    · cases h
  · rw [Draft.refuse.eq_def] at h
    split at h <;> cases h

end records

section tagged

variable {α : Type} {tagName : String} {kinds : List (String × α)} {source : Source} {levels : Nat}

theorem tagMember_others (kinds : List (String × α)) (source : Source)
    {ms : List (String × Json)} (hkeys : tagName ∉ keys ms)
    (hfits : ∀ m ∈ ms, Fits levels m.2) (rest : List (Except Fault String × Draft))
    (found : Option α) :
    tagMember tagName kinds source levels (Draft.ofMembers ms ++ rest) found
      = (tagMember tagName kinds source levels rest found).map
        fun result => (result.1, Draft.ofMembers ms ++ result.2) := by
  induction ms with
  | nil =>
    rw [Draft.ofMembers, List.nil_append]
    cases tagMember tagName kinds source levels rest found <;> rfl
  | cons m ms ih =>
    have hread := Draft.toJson_ofJson (hfits m List.mem_cons_self)
    rw [keys_cons, List.mem_cons, not_or] at hkeys
    have hkey : m.1 ≠ tagName := fun h => hkeys.1 h.symm
    have hms := ih hkeys.2 fun k hk => hfits k (List.mem_cons_of_mem _ hk)
    simp only [Draft.ofMembers, List.cons_append, tagMember, Draft.key, id_eq, bind, Except.bind,
      hkey, if_false, hread, hms]
    cases tagMember tagName kinds source levels rest found <;> rfl

theorem ofMembers_append (ms ns : List (String × Json)) :
    Draft.ofMembers (ms ++ ns) = Draft.ofMembers ms ++ Draft.ofMembers ns := by
  induction ms with
  | nil => rfl
  | cons m ms ih => simp only [List.cons_append, Draft.ofMembers, ih]

/-- The tag is found wherever it stands among the members. -/
theorem tagMember_split {kind : String} {a : α} (hkind : lookup kinds kind = .ok a)
    {before after : List (String × Json)} (hkeys : tagName ∉ keys (before ++ after))
    (hfits : ∀ m ∈ before ++ after, Fits levels m.2) :
    tagMember tagName kinds source levels
        (Draft.ofMembers (before ++ (tagName, .text kind) :: after)) none
      = .ok (some a, Draft.ofMembers (before ++ after)) := by
  rw [keys_append, List.mem_append, not_or] at hkeys
  have hafter : tagMember tagName kinds source levels (Draft.ofMembers after) (some a)
      = .ok (some a, Draft.ofMembers after) := by
    have hothers := tagMember_others kinds source hkeys.2
      (fun m hm => hfits m (List.mem_append_right _ hm)) [] (some a)
    rw [List.append_nil] at hothers
    rw [hothers, tagMember, Except.map, List.append_nil]
  have htag : tag kinds source (Draft.text (some kind)) = .ok a := by
    cases source <;> exact hkind
  rw [ofMembers_append, tagMember_others kinds source hkeys.1
    fun m hm => hfits m (List.mem_append_left _ hm)]
  simp only [Draft.ofMembers, Draft.ofJson, tagMember, Draft.key, id_eq, bind, Except.bind, if_true,
    Option.isSome_none, Bool.false_eq_true, if_false, htag, hafter]
  simp [Except.map, ofMembers_append]

theorem tagged_object {kinds : List (String × Decoder α)} {kind : String} {decode : Decoder α}
    (hkind : lookup kinds kind = .ok decode) {before after : List (String × Json)}
    (hkeys : tagName ∉ keys (before ++ after)) (hfits : ∀ m ∈ before ++ after, Fits levels m.2) :
    tagged tagName kinds source (levels + 1)
        (.object (Draft.ofMembers (before ++ (tagName, .text kind) :: after)) none)
      = decode .tagged (levels + 1) (.object (Draft.ofMembers (before ++ after)) none) := by
  rw [tagged, tagMember_split hkind hkeys hfits]
  rfl

theorem tagged_arranged {kinds : List (String × Decoder α)} {kind : String} {decode : Decoder α}
    (hkind : lookup kinds kind = .ok decode) (sort : Bool) {ms : List (String × Json)}
    (hkeys : tagName ∉ keys ms) (hfits : ∀ m ∈ ms, Fits levels m.2) :
    tagged tagName kinds source (levels + 1)
        (Draft.ofJson ((Json.object ((tagName, .text kind) :: ms)).arranged sort))
      = decode .tagged (levels + 1) (.object (Draft.ofMembers (arrangedMembers sort ms)) none) := by
  obtain ⟨before, after, hsplit, hrest⟩ := arrangedMembers_cons sort (tagName, .text kind) ms
  have htext : (Json.text kind).arranged sort = .text kind := by cases sort <;> rfl
  have hkeys' : tagName ∉ keys (before ++ after) := by
    rw [hrest, mem_keys_arranged]
    exact hkeys
  have hfits' : ∀ m ∈ before ++ after, Fits levels m.2 := by
    intro m hm
    rw [hrest, mem_arrangedMembers] at hm
    obtain ⟨k, hk, rfl⟩ := hm
    exact fits_arranged.2 (hfits k hk)
  rw [arranged_object, hsplit, htext, ← hrest]
  exact tagged_object hkind hkeys' hfits'

theorem tagMember_found {f : Numeral → Option Numeral} (kinds : List (String × α))
    (source : Source) {ms : List (String × Json)} (hkeys : tagName ∉ keys ms) (a : α) :
    tagMember tagName kinds source levels (Draft.readByMembers f ms) (some a)
      = (Draft.membersToJson levels (Draft.readByMembers f ms)).map
        fun _ => (some a, Draft.readByMembers f ms) := by
  induction ms with
  | nil => rfl
  | cons m ms ih =>
    rw [keys_cons, List.mem_cons, not_or] at hkeys
    have hkey : m.1 ≠ tagName := fun h => hkeys.1 h.symm
    simp only [Draft.readByMembers, tagMember, Draft.membersToJson, Draft.key, id_eq, bind,
      Except.bind, hkey, if_false, ih hkeys.2]
    cases (Draft.readBy f m.2).toJson levels with
    | error fault => rfl
    | ok k =>
      dsimp only
      cases Draft.membersToJson levels (Draft.readByMembers f ms) <;> rfl

theorem tagged_ofJson {kinds : List (String × Decoder α)} {kind : String} {decode : Decoder α}
    (hkind : lookup kinds kind = .ok decode) {ms : List (String × Json)} (hkeys : tagName ∉ keys ms)
    (hfits : Fits levels (.object ((tagName, .text kind) :: ms))) :
    tagged tagName kinds source levels (Draft.ofJson (.object ((tagName, .text kind) :: ms)))
      = decode .tagged levels (.object (Draft.readByMembers some ms) none) := by
  obtain ⟨l, rfl, hmembers⟩ := fits_object.1 hfits
  rw [Draft.readByMembers_some]
  have hbody : ∀ m ∈ [] ++ ms, Fits l m.2 := fun m hm => hmembers m (List.mem_cons_of_mem _ hm)
  exact tagged_object hkind hkeys hbody

theorem tagged_first {f : Numeral → Option Numeral} {kinds : List (String × Decoder α)}
    {kind : String} {decode : Decoder α} {a : α} (hkind : lookup kinds kind = .ok decode)
    {ms : List (String × Json)} (hkeys : tagName ∉ keys ms)
    (h : tagged tagName kinds source levels
      (Draft.readBy f (.object ((tagName, .text kind) :: ms))) = .ok a) :
    Fits levels (.object ((tagName, .text kind) :: ms)) ∧
      decode .tagged levels (.object (Draft.readByMembers f ms) none) = .ok a := by
  cases levels with
  | zero => cases h
  | succ levels =>
    have htag : tag kinds source (Draft.text (some kind)) = .ok decode := by
      cases source <;> exact hkind
    have hfound : tagMember tagName kinds source levels (Draft.readByMembers f ms) (some decode)
        = _ := tagMember_found kinds source hkeys decode
    simp only [Draft.readBy, Draft.readByMembers, tagged, tagMember, Draft.key, id_eq, bind,
      Except.bind, if_true, Option.isSome_none, Bool.false_eq_true, if_false, htag, hfound] at h
    cases hread : Draft.membersToJson levels (Draft.readByMembers f ms) with
    | error fault =>
      rw [hread] at h
      cases h
    | ok ks =>
      rw [hread] at h
      have hfits := Draft.fits_of_membersToJson hread
      exact ⟨fits_object_succ.2 (List.forall_mem_cons.2 ⟨Nat.zero_le _, hfits⟩), h⟩

end tagged

end Decoder

theorem decodeText_of_draft {α : Type} {decode : Decoder α} {s : String} {d : Draft}
    (h : Draft.ofText s = ⟨d, false⟩) : decodeText decode s = decode .text nestingLimit d := by
  rw [decodeText, h, Draft.Whole.read]
  cases decode .text nestingLimit d <;> rfl

end Criteria.Json
