import Criteria.Proofs.Export.Empty
import Criteria.Proofs.Tree.Reread

namespace Criteria

namespace Mongo

variable (catalog : Catalog) (options : Options)

mutual

theorem plain_eq_toJson : ∀ v : Value, plain v = v.toJson
  | .null | .bool _ | .number _ | .text _ => rfl
  | .list vs => congrArg Json.list (plains_eq_itemsToJson vs)

theorem plains_eq_itemsToJson : ∀ vs : List Value, plains vs = Value.itemsToJson vs
  | [] => rfl
  | v :: vs => congrArg₂ List.cons (plain_eq_toJson v) (plains_eq_itemsToJson vs)

end

theorem isRead_ofNumber (x : Number) : ∀ n ∈ (Json.ofNumber x).numerals, n.IsRead := by
  obtain ⟨m, hm⟩ := Json.exists_ofNumber x
  intro n hn
  rw [hm] at hn
  rw [List.mem_singleton.1 hn]
  exact Json.isRead_of_ofNumber hm

theorem isRead_plain (v : Value) : ∀ n ∈ (plain v).numerals, n.IsRead := by
  intro n hn
  rw [plain_eq_toJson] at hn
  obtain ⟨x, -, hx⟩ := v.exists_number_of_numeral hn
  exact Json.isRead_of_ofNumber hx

theorem isRead_value (field : Option Field) (v : Value) :
    ∀ n ∈ (value field v).numerals, n.IsRead := by
  rw [value]
  split
  · cases v.number? with
    | none => exact isRead_plain v
    | some x => exact isRead_ofNumber x
  · cases v.bool? with
    | none => exact isRead_plain v
    | some b => exact fun n hn => absurd hn List.not_mem_nil
  · cases v.date? with
    | none => exact isRead_plain v
    | some d => exact fun n hn => absurd hn List.not_mem_nil
  · exact isRead_plain v

theorem isRead_range (field : Option Field) (v : Value) :
    ∀ n ∈ (range field v).numerals, n.IsRead := by
  simp only [range, Json.numerals, Json.numeralsOfMembers, List.append_nil, List.mem_append]
  rintro n (hn | hn)
  · exact isRead_value field _ n hn
  · exact isRead_value field _ n hn

theorem isRead_items (field : Option Field) (vs : List Value) :
    ∀ n ∈ (Json.list (vs.map (value field))).numerals, n.IsRead := by
  intro n hn
  obtain ⟨j, hj, hn⟩ := Json.mem_numeralsOf.1 hn
  obtain ⟨v, -, rfl⟩ := List.mem_map.1 hj
  exact isRead_value field v n hn

theorem isRead_condition (c : Condition) :
    ∀ n ∈ (condition catalog options c).toJson.numerals, n.IsRead := by
  have hvalue := isRead_value (catalog.get? c.field) c.value
  have hrange := isRead_range (catalog.get? c.field) c.value
  have hitems := isRead_items (catalog.get? c.field) c.value.items
  rw [condition]
  cases c.operator with
  | equals | notEquals | greaterThan | after | greaterThanOrEqual | lessThan | before
  | lessThanOrEqual =>
    simpa [Filter.toJson, Json.numerals, Json.numeralsOfMembers] using hvalue
  | between | notBetween =>
    simpa [Filter.toJson, Json.numerals, Json.numeralsOfMembers] using hrange
  | isIn | notIn =>
    simpa [Filter.toJson, Json.numerals, Json.numeralsOfMembers] using hitems
  | contains | startsWith | endsWith =>
    simp only [matching]
    split <;> simp [Filter.toJson, Json.numerals, Json.numeralsOfMembers]
  | isTrue | isFalse | isEmpty | isNotEmpty =>
    simp [Filter.toJson, Filter.toJsons, Json.numerals, Json.numeralsOf, Json.numeralsOfMembers]

theorem isRead_toJsons {fs : List Filter} (h : ∀ f ∈ fs, ∀ n ∈ f.toJson.numerals, n.IsRead) :
    ∀ n ∈ Json.numeralsOf (Filter.toJsons fs), n.IsRead := by
  intro n hn
  rw [toJsons_eq] at hn
  obtain ⟨j, hj, hn⟩ := Json.mem_numeralsOf.1 hn
  obtain ⟨f, hf, rfl⟩ := List.mem_map.1 hj
  exact h f hf n hn

theorem related_isRead :
    Rendering.Related (fun f _ => ∀ n ∈ f.toJson.numerals, n.IsRead)
      (fun f _ => ∀ n ∈ f.toJson.numerals, n.IsRead) (rendering catalog options) .gather where
  join {c a b as bs} h hs := by
    have hrest : ∀ p ∈ as, ∀ n ∈ p.2.toJson.numerals, n.IsRead :=
      ((List.forall₂_and_left _ _).1 (hs.imp fun p q hpq => ⟨hpq.2, hpq.1⟩)).1
    cases as with
    | nil => exact h
    | cons p as =>
      have hall : ∀ f ∈ a :: (p :: as).map (·.2), ∀ n ∈ f.toJson.numerals, n.IsRead :=
        List.forall_mem_cons.2 ⟨h, List.forall_mem_map.2 hrest⟩
      simp only [rendering, join]
      split <;>
        simpa [Filter.toJson, Json.numerals, Json.numeralsOfMembers] using isRead_toJsons hall
  nest h := h
  negate h := by simpa [rendering, Filter.toJson, Json.numerals, Json.numeralsOfMembers] using h

theorem isRead_compile (t : Tree) : ∀ n ∈ (compile t catalog options).numerals, n.IsRead := by
  rw [compile]
  cases hf : filter? t catalog options with
  | none => exact fun n hn => absurd hn List.not_mem_nil
  | some f =>
    exact Group.render?_rec (P := fun f _ => ∀ n ∈ f.toJson.numerals, n.IsRead)
      (related_isRead catalog options) (fun c _ => isRead_condition catalog options c) hf

theorem compile_eq_object (t : Tree) :
    ∃ ms, compile t catalog options = .object ms ∧ ms.length ≤ 1 := by
  rw [compile]
  cases filter? t catalog options with
  | none => exact ⟨[], rfl, Nat.zero_le 1⟩
  | some f => cases f <;> exact ⟨_, rfl, Nat.le_refl 1⟩

end Mongo

theorem Json.length_sortedMembers (ms : List (String × Json)) :
    (sortedMembers ms).length = ms.length := by
  induction ms with
  | nil => rfl
  | cons m ms ih =>
    obtain ⟨before, after, hinsert, hms⟩ := insertMember_split (m.1, m.2.sorted) (sortedMembers ms)
    have hlength := congrArg List.length hinsert
    rw [← hms] at ih
    simp only [List.length_append, List.length_cons] at hlength ih ⊢
    rw [sortedMembers, hlength]
    omega

theorem Json.Draft.length_readByMembers (f : Numeral → Option Numeral)
    (ms : List (String × Json)) : (readByMembers f ms).length = ms.length := by
  induction ms with
  | nil => rfl
  | cons m ms ih => rw [readByMembers, List.length_cons, List.length_cons, ih]

namespace Export

open Json (Draft)

theorem isRead_treeJson (t : Tree) : ∀ n ∈ (treeJson t).numerals, n.IsRead :=
  fun n hn => t.isRead_toJson n ((Json.mem_numerals_sorted t.toJson).1 hn)

theorem treeJson_eq_object (t : Tree) : ∃ ms, treeJson t = .object ms ∧ 3 ≤ ms.length := by
  refine ⟨_, rfl, ?_⟩
  rw [Json.length_sortedMembers, Header.members]
  simp only [List.length_append, List.length_cons]
  omega

/-- The filter of a tree is never written as the JSON of a tree is. -/
theorem filter_ne_treeJson (t u : Tree) (catalog : Catalog) (options : Mongo.Options) :
    (Mongo.compile t catalog options).renderPretty ≠ (treeJson u).renderPretty := by
  intro h
  obtain ⟨ms, hms, hfew⟩ := Mongo.compile_eq_object catalog options t
  obtain ⟨ns, hns, hmany⟩ := treeJson_eq_object u
  have hread := congrArg Draft.ofText h
  rw [Json.ofText_writtenPretty (Mongo.isRead_compile catalog options t),
    Json.ofText_writtenPretty (isRead_treeJson u), hms, hns] at hread
  have hmembers := congrArg List.length (Draft.object.inj (Draft.Whole.mk.inj hread).1).1
  rw [Draft.length_readByMembers, Draft.length_readByMembers] at hmembers
  omega

end Export

end Criteria
