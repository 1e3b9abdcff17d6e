import Criteria.Proofs.Json.Decode
import Criteria.Proofs.Json.Numeral
import Criteria.SavedQuery.Json

namespace Criteria

open Json (Decoder Draft Fits Source)

namespace Value

mutual

theorem ofJson?_toJson : ∀ v : Value, ofJson? v.toJson = some v
  | .null | .bool _ | .text _ => rfl
  | .number x => by
    obtain ⟨n, hn⟩ := Json.exists_ofNumber x
    rw [toJson, hn, ofJson?, Json.toNumber?_of_ofNumber hn]
    rfl
  | .list vs => by
    rw [toJson, ofJson?, itemsOfJson?_itemsToJson vs]
    rfl

theorem itemsOfJson?_itemsToJson : ∀ vs : List Value, itemsOfJson? (itemsToJson vs) = some vs
  | [] => rfl
  | v :: vs => by
    rw [itemsToJson, itemsOfJson?, ofJson?_toJson v, itemsOfJson?_itemsToJson vs]
    rfl

end

mutual

theorem sorted_toJson : ∀ v : Value, v.toJson.sorted = v.toJson
  | .null | .bool _ | .text _ => rfl
  | .number x => by
    rw [toJson, Json.ofNumber]
    split <;> rfl
  | .list vs => by
    rw [toJson, Json.sorted, sortedItems_itemsToJson vs]

theorem sortedItems_itemsToJson :
    ∀ vs : List Value, Json.sortedItems (itemsToJson vs) = itemsToJson vs
  | [] => rfl
  | v :: vs => by
    rw [itemsToJson, Json.sortedItems, sorted_toJson v, sortedItems_itemsToJson vs]

end

theorem decoder_toJson (source : Source) {levels : Nat} {v : Value} (h : Fits levels v.toJson) :
    decoder source levels (Draft.ofJson v.toJson) = .ok v := by
  have hread := Draft.toJson_ofJson h
  simp only [decoder, Decoder.whole, hread, bind, Except.bind, ofJson?_toJson]

end Value

theorem Combinator.decoder_toJson (f : Numeral → Option Numeral) (source : Source) (levels : Nat)
    (c : Combinator) : decoder source levels (Draft.readBy f c.toJson) = .ok c := by
  cases c <;> cases source <;> rfl

theorem Operator.decoder_toJson (f : Numeral → Option Numeral) (source : Source) (levels : Nat)
    (op : Operator) : decoder source levels (Draft.readBy f op.toJson) = .ok op := by
  cases op <;> rfl

theorem Combinator.option_toJson (f : Numeral → Option Numeral) (source : Source) (levels : Nat)
    (c : Combinator) :
    Decoder.option decoder source levels (Draft.readBy f c.toJson) = .ok (some c) := by
  cases c <;> rfl

namespace Condition

variable {source : Source} {levels : Nat} (f : Numeral → Option Numeral)

theorem decoder_members (c : Condition) :
    decoder source (levels + 1) (.object (Draft.readByMembers f c.members) none)
      = (Value.decoder source levels (Draft.readBy f c.value.toJson)).map
        fun value => { c with value } := by
  have hoperator := Operator.decoder_toJson f source levels c.operator
  have hedge := Combinator.option_toJson f source levels
  simp only [members, List.cons_append, List.nil_append, decoder, Decoder.record]
  rw [Decoder.members_cons "id" rfl (by simp) rfl,
    Decoder.members_cons "fieldName" rfl (by simp) rfl,
    Decoder.members_cons "operator" rfl (by simp) hoperator]
  cases hvalue : Value.decoder source levels (Draft.readBy f c.value.toJson) with
  | error fault =>
    rw [Decoder.members_fault "value" rfl hvalue]
    rfl
  | ok v =>
    rw [Decoder.members_cons "value" rfl (by simp) hvalue,
      ← List.append_nil (Json.optional _ _ _),
      Decoder.members_optional "edgeCombinator" rfl (by simp) hedge rfl]
    rfl

theorem sorted_members (c : Condition) :
    Json.sortedMembers c.members
      = Json.optional "edgeCombinator" Combinator.toJson c.edge
        ++ [("fieldName", .text c.field), ("id", .text c.id), ("operator", c.operator.toJson),
          ("value", c.value.toJson)] := by
  have hoperator : c.operator.toJson.sorted = c.operator.toJson := rfl
  have hvalue := Value.sorted_toJson c.value
  rw [members]
  cases c.edge with
  | none =>
    simp only [Json.optional, List.nil_append, List.append_nil, Json.sortedMembers,
      Json.insertMember, Json.sorted, hvalue, hoperator, String.reduceLT, if_true, if_false]
  | some edge =>
    have hedge : edge.toJson.sorted = edge.toJson := rfl
    simp only [Json.optional, List.cons_append, List.nil_append, Json.sortedMembers,
      Json.insertMember, Json.sorted, hvalue, hoperator, hedge, String.reduceLT, if_true, if_false]

theorem decoder_sorted (c : Condition) :
    decoder source (levels + 1) (.object (Draft.readByMembers f (Json.sortedMembers c.members)) none)
      = (Value.decoder source levels (Draft.readBy f c.value.toJson)).map
        fun value => { c with value } := by
  have hoperator := Operator.decoder_toJson f source levels c.operator
  have hedge := Combinator.option_toJson f source levels
  rw [sorted_members, decoder, Decoder.record,
    Decoder.members_optional "edgeCombinator" rfl (by simp) hedge rfl,
    Decoder.members_cons "fieldName" rfl (by simp) rfl,
    Decoder.members_cons "id" rfl (by simp) rfl,
    Decoder.members_cons "operator" rfl (by simp) hoperator]
  cases hvalue : Value.decoder source levels (Draft.readBy f c.value.toJson) with
  | error fault =>
    rw [Decoder.members_fault "value" rfl hvalue]
    rfl
  | ok v =>
    rw [Decoder.members_cons "value" rfl (by simp) hvalue]
    rfl

theorem decoder_readBy (sort : Bool) (c : Condition) :
    decoder source (levels + 1)
        (.object (Draft.readByMembers f (Json.arrangedMembers sort c.members)) none)
      = (Value.decoder source levels (Draft.readBy f c.value.toJson)).map
        fun value => { c with value } := by
  cases sort with
  | false => exact decoder_members f c
  | true => exact decoder_sorted f c

theorem decoder_arranged (sort : Bool) {c : Condition} (h : Fits levels c.value.toJson) :
    decoder source (levels + 1)
      (.object (Draft.ofMembers (Json.arrangedMembers sort c.members)) none) = .ok c := by
  have hvalue := Value.decoder_toJson source h
  rw [← Draft.readByMembers_some, decoder_readBy, Draft.readBy_some, hvalue]
  rfl

end Condition

namespace Header

theorem sorted_members (h : Header) (children : Json) :
    Json.sortedMembers (h.members children)
      = ("children", children.sorted) :: ("defaultCombinator", h.combinator.toJson)
        :: (Json.optional "edgeCombinator" Combinator.toJson h.edge
          ++ ("id", .text h.id)
            :: ((if h.negated then [("negate", Json.bool true)] else []) ++ [])) := by
  have hcombinator : h.combinator.toJson.sorted = h.combinator.toJson := rfl
  rw [members]
  cases h.negated <;> cases h.edge with
  | none =>
    simp only [Json.optional, List.cons_append, List.nil_append, List.append_nil,
      Json.sortedMembers, Json.insertMember, Json.sorted, hcombinator, String.reduceLT, if_true,
      if_false, Bool.false_eq_true]
  | some edge =>
    have hedge : edge.toJson.sorted = edge.toJson := rfl
    simp only [Json.optional, List.cons_append, List.nil_append, List.append_nil,
      Json.sortedMembers, Json.insertMember, Json.sorted, hcombinator, hedge, String.reduceLT,
      if_true, if_false, Bool.false_eq_true]

end Header

namespace Group

variable {source : Source} {levels : Nat} {decodeChildren : Decoder (List Node)}
variable (f : Numeral → Option Numeral)

theorem decoder_members (h : Header) (children : Json) :
    decoderWith decodeChildren source (levels + 1)
        (.object (Draft.readByMembers f (h.members children)) none)
      = (decodeChildren source levels (Draft.readBy f children)).map fun ns => ⟨h, ns⟩ := by
  have hcombinator := Combinator.decoder_toJson f source levels h.combinator
  have hedge := Combinator.option_toJson f source levels
  simp only [Header.members, List.cons_append, List.nil_append, decoderWith, Decoder.record]
  rw [Decoder.members_cons "id" rfl (by simp) rfl,
    Decoder.members_cons "defaultCombinator" rfl (by simp) hcombinator]
  cases hchildren : decodeChildren source levels (Draft.readBy f children) with
  | error fault =>
    rw [Decoder.members_fault "children" rfl hchildren]
    rfl
  | ok ns =>
    rw [Decoder.members_cons "children" rfl (by simp) hchildren,
      Decoder.members_flag "negate" h.negated rfl (by simp) rfl,
      ← List.append_nil (Json.optional _ _ _),
      Decoder.members_optional "edgeCombinator" rfl (by simp) hedge rfl]
    rfl

theorem decoder_sorted (h : Header) (children : Json) :
    decoderWith decodeChildren source (levels + 1)
        (.object (Draft.readByMembers f (Json.sortedMembers (h.members children))) none)
      = (decodeChildren source levels (Draft.readBy f children.sorted)).map fun ns => ⟨h, ns⟩ := by
  have hcombinator := Combinator.decoder_toJson f source levels h.combinator
  have hedge := Combinator.option_toJson f source levels
  rw [Header.sorted_members, decoderWith, Decoder.record]
  cases hchildren : decodeChildren source levels (Draft.readBy f children.sorted) with
  | error fault =>
    rw [Decoder.members_fault "children" rfl hchildren]
    rfl
  | ok ns =>
    rw [Decoder.members_cons "children" rfl (by simp) hchildren,
      Decoder.members_cons "defaultCombinator" rfl (by simp) hcombinator,
      Decoder.members_optional "edgeCombinator" rfl (by simp) hedge rfl,
      Decoder.members_cons "id" rfl (by simp) rfl,
      Decoder.members_flag "negate" h.negated rfl (by simp) rfl]
    rfl

theorem decoder_readBy (sort : Bool) (h : Header) (children : Json) :
    decoderWith decodeChildren source (levels + 1)
        (.object (Draft.readByMembers f (Json.arrangedMembers sort (h.members children))) none)
      = (decodeChildren source levels (Draft.readBy f (children.arranged sort))).map
        fun ns => ⟨h, ns⟩ := by
  cases sort with
  | false => exact decoder_members f h children
  | true => exact decoder_sorted f h children

theorem decoder_arranged (sort : Bool) {h : Header} {children : Json} {ns : List Node}
    (hchildren : decodeChildren source levels (Draft.ofJson (children.arranged sort)) = .ok ns) :
    decoderWith decodeChildren source (levels + 1)
      (.object (Draft.ofMembers (Json.arrangedMembers sort (h.members children))) none)
      = .ok ⟨h, ns⟩ := by
  rw [← Draft.readByMembers_some, decoder_readBy, Draft.readBy_some, hchildren]
  rfl

end Group

namespace Node

variable {source : Source} {levels : Nat} (children : Decoder (List Node)) (sort : Bool)

theorem decoderWith_condition {c : Condition} (hfits : ∀ m ∈ c.members, Fits levels m.2) :
    decoderWith children source (levels + 1) (Draft.ofJson ((condition c).toJson.arranged sort))
      = .ok (.condition c) := by
  have hvalue : Fits levels c.value.toJson :=
    hfits ("value", c.value.toJson) (by simp [Condition.members])
  have hcondition : Condition.decoder .tagged (levels + 1)
      (.object (Draft.ofMembers (Json.arrangedMembers sort c.members)) none) = .ok c :=
    Condition.decoder_arranged sort hvalue
  have hkeys : "kind" ∉ Json.keys c.members := by simp [Condition.members]
  rw [decoderWith, toJson, Decoder.tagged_arranged rfl sort hkeys hfits, hcondition]
  rfl

theorem decoderWith_group {h : Header} {cs ns : List Node}
    (hfits : ∀ m ∈ h.members (.list (toJsons cs)), Fits levels m.2)
    (hchildren : children .tagged levels
      (Draft.ofJson ((Json.list (toJsons cs)).arranged sort)) = .ok ns) :
    decoderWith children source (levels + 1) (Draft.ofJson ((group h cs).toJson.arranged sort))
      = .ok (.group h ns) := by
  have hgroup := Group.decoder_arranged sort (h := h) hchildren
  have hkeys : "kind" ∉ Json.keys (h.members (.list (toJsons cs))) := by simp [Header.members]
  rw [decoderWith, toJson, Decoder.tagged_arranged rfl sort hkeys hfits, hgroup]
  rfl

mutual

/-- A node whose JSON fits is decoded as itself, wherever it is read from. -/
theorem decode_toJson : ∀ (n : Node) (source : Source) (levels : Nat), Fits levels n.toJson →
    decode source levels (Draft.ofJson (n.toJson.arranged sort)) = .ok n
  | .condition c, source, levels, hfits => by
    obtain ⟨l, rfl, hmembers⟩ := Json.fits_object.1 hfits
    have hbody : ∀ m ∈ c.members, Fits l m.2 := fun m hm => hmembers m (List.mem_cons_of_mem _ hm)
    cases l with
    | zero => exact decoderWith_condition _ sort hbody
    | succ l => exact decoderWith_condition _ sort hbody
  | .group h cs, source, levels, hfits => by
    obtain ⟨l, rfl, hmembers⟩ := Json.fits_object.1 hfits
    have hbody : ∀ m ∈ h.members (.list (toJsons cs)), Fits l m.2 :=
      fun m hm => hmembers m (List.mem_cons_of_mem _ hm)
    -- The object takes one level and the list of its children another.
    obtain ⟨l, rfl, hchildren⟩ := Json.fits_list.1
      (hbody ("children", .list (toJsons cs)) (by simp [Header.members]))
    have hitems := Decoder.items_ofItems (decodeItems_toJsons cs .tagged l hchildren)
    refine decoderWith_group _ sort hbody ?_
    rw [Json.arranged_list]
    simp only [Draft.ofJson, hitems]
    rfl

theorem decodeItems_toJsons : ∀ (ns : List Node) (source : Source) (levels : Nat),
    (∀ j ∈ toJsons ns, Fits levels j) →
      List.Forall₂ (fun j n => decode source levels (Draft.ofJson j) = .ok n)
        ((toJsons ns).map (Json.arranged sort)) ns
  | [], _, _, _ => .nil
  | n :: ns, source, levels, hfits =>
    .cons (decode_toJson n source levels (hfits n.toJson List.mem_cons_self))
      (decodeItems_toJsons ns source levels fun j hj => hfits j (List.mem_cons_of_mem _ hj))

end

end Node

namespace Group

theorem decoder_toJson (sort : Bool) {t : Tree} {source : Source} {levels : Nat}
    (hfits : Fits levels t.toJson) :
    decoder source levels (Draft.ofJson (t.toJson.arranged sort)) = .ok t := by
  obtain ⟨l, rfl, hmembers⟩ := Json.fits_object.1 hfits
  obtain ⟨l, rfl, hchildren⟩ := Json.fits_list.1
    (hmembers ("children", .list (Node.toJsons t.children)) (by simp [Header.members]))
  have hitems := Decoder.items_ofItems (Node.decodeItems_toJsons sort t.children source l hchildren)
  rw [decoder, toJson, Json.arranged_object]
  refine decoder_arranged sort ?_
  rw [Json.arranged_list]
  simp only [Draft.ofJson, Decoder.list, Node.decoder, hitems]
  rfl

/-- The members of a tree are none of those of a saved query, so it is not taken for one. -/
theorem savedQuery_readBy (f : Numeral → Option Numeral) (sort : Bool) (t : Tree) (source : Source)
    (levels : Nat) :
    SavedQuery.decoder source (levels + 1) (Draft.readBy f (t.toJson.arranged sort))
      = .error .mismatch := by
  rw [toJson, Json.arranged_object, SavedQuery.decoder, Draft.readBy, Decoder.record,
    Decoder.members_unknown]
  · rfl
  · intro m hm
    have hkey : m.1 ∈ Json.keys (Json.arrangedMembers sort
        (t.header.members (.list (Node.toJsons t.children)))) := List.mem_map_of_mem hm
    rw [Json.mem_keys_arranged] at hkey
    simp only [Header.members, Json.keys_append, Json.keys_cons, Json.keys_nil, List.mem_append,
      List.mem_cons, List.not_mem_nil, or_false, Json.mem_keys_ite, Json.mem_keys_optional] at hkey
    rcases hkey with ((hkey | hkey | hkey) | ⟨-, hkey⟩) | ⟨-, hkey⟩ <;> rw [hkey] <;> rfl

theorem storedDecoder_toJson (sort : Bool) {t : Tree} (source : Source) {levels : Nat}
    (hfits : Fits levels t.toJson) :
    storedDecoder source levels (Draft.ofJson (t.toJson.arranged sort)) = .ok t := by
  have harranged : Fits levels (t.toJson.arranged sort) := Json.fits_arranged.2 hfits
  have hread := Draft.toJson_ofJson harranged
  have htree : decoder .buffered levels _ = .ok t := decoder_toJson sort hfits
  obtain ⟨l, rfl, -⟩ := Json.fits_object.1 hfits
  have hsaved := savedQuery_readBy some sort t .buffered l
  rw [Draft.readBy_some] at hsaved
  simp only [storedDecoder, hread, bind, Except.bind, hsaved, htree]

end Group

end Criteria
