import Criteria.Export
import Criteria.Proofs.Json.Text
import Criteria.Proofs.Tree.Json

namespace Criteria

open Json (Decoder Draft)

namespace Value

mutual

/-- The numbers in a value. -/
def numbers : Value → List Number
  | .number x => [x]
  | .list vs => numbersOf vs
  | _ => []

def numbersOf : List Value → List Number
  | [] => []
  | v :: vs => v.numbers ++ numbersOf vs

end

mutual

theorem exists_number_of_numeral {n : Numeral} :
    ∀ v : Value, n ∈ v.toJson.numerals → ∃ x ∈ v.numbers, Json.ofNumber x = .number n
  | .null, h | .bool _, h | .text _, h => absurd h List.not_mem_nil
  | .number x, h => by
    obtain ⟨m, hm⟩ := Json.exists_ofNumber x
    rw [toJson, hm] at h
    rw [List.mem_singleton.1 h]
    exact ⟨x, List.mem_singleton_self x, hm⟩
  | .list vs, h => exists_number_of_numeralsOf vs h

theorem exists_number_of_numeralsOf {n : Numeral} : ∀ vs : List Value,
    n ∈ Json.numeralsOf (itemsToJson vs) → ∃ x ∈ numbersOf vs, Json.ofNumber x = .number n
  | [], h => absurd h List.not_mem_nil
  | v :: vs, h => by
    rcases List.mem_append.1 h with h | h
    · obtain ⟨x, hx, hn⟩ := exists_number_of_numeral v h
      exact ⟨x, List.mem_append_left _ hx, hn⟩
    · obtain ⟨x, hx, hn⟩ := exists_number_of_numeralsOf vs h
      exact ⟨x, List.mem_append_right _ hx, hn⟩

end

end Value

theorem Condition.numerals_members {c : Condition} {n : Numeral} :
    n ∈ Json.numeralsOfMembers c.members ↔ n ∈ c.value.toJson.numerals := by
  simp [members, Json.numeralsOfMembers, Json.numerals, Operator.toJson, Combinator.toJson]

theorem Header.numerals_members {h : Header} {children : Json} {n : Numeral} :
    n ∈ Json.numeralsOfMembers (h.members children) ↔ n ∈ children.numerals := by
  cases hnegated : h.negated <;>
    simp [members, hnegated, Json.numeralsOfMembers, Json.numerals, Combinator.toJson]

namespace Node

mutual

theorem exists_condition_of_numeral {n : Numeral} : ∀ m : Node, n ∈ m.toJson.numerals →
    ∃ c ∈ m.conditions, n ∈ c.value.toJson.numerals
  | .condition c, h => ⟨c, List.mem_singleton_self c, Condition.numerals_members.1 h⟩
  | .group h children, hn => by
    exact exists_condition_of_numerals children (Header.numerals_members.1 hn)

theorem exists_condition_of_numerals {n : Numeral} : ∀ ms : List Node,
    n ∈ Json.numeralsOf (toJsons ms) → ∃ c ∈ conditionsOf ms, n ∈ c.value.toJson.numerals
  | [], h => absurd h List.not_mem_nil
  | m :: ms, h => by
    rcases List.mem_append.1 h with h | h
    · obtain ⟨c, hc, hn⟩ := exists_condition_of_numeral m h
      exact ⟨c, List.mem_append_left _ hc, hn⟩
    · obtain ⟨c, hc, hn⟩ := exists_condition_of_numerals ms h
      exact ⟨c, List.mem_append_right _ hc, hn⟩

end

end Node

namespace Group

/-- The numbers in the conditions of a tree. -/
def numbers (t : Tree) : List Number := t.conditions.flatMap (·.value.numbers)

theorem exists_number_of_numeral {t : Tree} {n : Numeral} (h : n ∈ t.toJson.numerals) :
    ∃ x ∈ t.numbers, Json.ofNumber x = .number n := by
  obtain ⟨c, hc, hn⟩ := Node.exists_condition_of_numerals t.children (Header.numerals_members.1 h)
  obtain ⟨x, hx, hnumber⟩ := Value.exists_number_of_numeral c.value hn
  exact ⟨x, List.mem_flatMap.2 ⟨c, hc, hx⟩, hnumber⟩

theorem isReadBack_toJson {t : Tree} (h : ∀ x ∈ t.numbers, x.IsReadNearest) (sort : Bool) :
    ∀ n ∈ (t.toJson.arranged sort).numerals, n.IsReadBack := by
  intro n hn
  rw [Json.mem_numerals_arranged] at hn
  obtain ⟨x, hx, hnumber⟩ := exists_number_of_numeral hn
  exact Json.isReadBack_of_ofNumber hnumber (h x hx)

theorem decodeValue_toJson (t : Tree) (sort : Bool) :
    Json.decodeValue decoder (t.toJson.arranged sort) = .ok t :=
  decoder_toJson sort (Json.fits_arranged.1 (Nat.le_refl _))

/-- A text whose draft is that of the tree is read as the tree if it is not too deep. -/
theorem ofText_of_draft (sort : Bool) {t : Tree} {s : String}
    (hdraft : Draft.ofText s = ⟨Draft.ofJson (t.toJson.arranged sort), false⟩)
    (hdepth : (Draft.ofText s).draft.depth ≤ Json.nestingLimit) : ofText s = .ok t := by
  rw [hdraft] at hdepth
  have hstored := storedDecoder_toJson sort .text (Json.fits_arranged.1 hdepth)
  rw [ofText, Json.decodeText, hdraft, Json.Draft.Whole.read, hstored]
  rfl

end Group

/-- A tree comes back from the value that is exported as JSON. It comes back from the text of that
value and from its own text, compact or indented, if the text is not too deep for the reader and the
literals of its numbers are read to the nearest number. -/
theorem tree_round_trip (t : Tree) (catalog : Catalog) (options : Export.Options) :
    (∃ j, Export.one t catalog .json options = .json j ∧ Json.decodeValue Group.decoder j = .ok t) ∧
      Json.decodeValue Group.decoder t.toJson = .ok t ∧
      ((∀ x ∈ t.numbers, x.IsReadNearest) →
        ∀ s ∈ [t.toJson.render, t.toJson.renderPretty,
            (Export.one t catalog .json options).display,
            (Export.one t catalog .json options).pretty],
          (Draft.ofText s).draft.depth ≤ Json.nestingLimit → Group.ofText s = .ok t) := by
  refine ⟨⟨Export.treeJson t, rfl, t.decodeValue_toJson true⟩, t.decodeValue_toJson false, ?_⟩
  intro hnumbers s hs hdepth
  have hown := Group.isReadBack_toJson hnumbers false
  have hexport := Group.isReadBack_toJson hnumbers true
  simp only [List.mem_cons, List.not_mem_nil, or_false] at hs
  rcases hs with rfl | rfl | rfl | rfl
  · exact Group.ofText_of_draft false (Json.ofText_render hown) hdepth
  · exact Group.ofText_of_draft false (Json.ofText_renderPretty hown) hdepth
  · exact Group.ofText_of_draft true (Json.ofText_render hexport) hdepth
  · exact Group.ofText_of_draft true (Json.ofText_renderPretty hexport) hdepth

/-- With a fraction, an exponent, an escaped control and a group inside the root. -/
theorem tree_round_trip_nested :
    let minus : Number := ⟨true, 5 * Nat.pow 2 50, 1023, by decide, by decide, by decide, by decide⟩
    let large : Number :=
      ⟨false, Nat.pow 5 16 * Nat.pow 2 15, 1075, by decide, by decide, by decide, by decide⟩
    let t : Tree := ⟨⟨"r", .and, true, none⟩,
      [.condition ⟨"c", "a\"b\x01", .between, .list [.number minus, .text "\n"], some .or⟩,
        .group ⟨"g", .or, false, none⟩ [.condition ⟨"d", "", .equals, .number large, none⟩]]⟩
    (∀ x ∈ t.numbers, x.IsReadNearest) ∧
      (Draft.ofText t.toJson.renderPretty).draft.depth ≤ Json.nestingLimit ∧
      Group.ofText t.toJson.renderPretty = .ok t := by
  intro minus large t
  have hnumbers : ∀ x ∈ t.numbers, x.IsReadNearest := by decide +kernel
  have hdepth : (Draft.ofText t.toJson.renderPretty).draft.depth ≤ Json.nestingLimit := by
    have hback := Group.isReadBack_toJson hnumbers false
    rw [Json.arranged, if_neg Bool.false_ne_true] at hback
    rw [Json.ofText_renderPretty hback]
    decide +kernel
  refine ⟨hnumbers, hdepth, ?_⟩
  exact (tree_round_trip t ⟨[]⟩ {}).2.2 hnumbers _ (by simp) hdepth

end Criteria
