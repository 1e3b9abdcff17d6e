import Criteria.Proofs.Tree.RoundTrip

namespace Criteria

open Json (Decoder Draft Fits Source)

variable {source : Source} {levels : Nat} {f : Numeral → Option Numeral}

theorem Json.decodeText_render {α : Type} {decode : Decoder α} {j : Json}
    (h : ∀ n ∈ j.numerals, n.IsRead) :
    decodeText decode j.render = decode .text nestingLimit (Draft.readBy Numeral.reread? j) :=
  decodeText_of_draft (ofText_written h)

theorem Json.decodeText_renderPretty {α : Type} {decode : Decoder α} {j : Json}
    (h : ∀ n ∈ j.numerals, n.IsRead) :
    decodeText decode j.renderPretty
      = decode .text nestingLimit (Draft.readBy Numeral.reread? j) :=
  decodeText_of_draft (ofText_writtenPretty h)

namespace Value

mutual

theorem nearest_of_ofJson? {levels : Nat} {k : Json} : ∀ {v : Value},
    (Draft.readBy Numeral.reread? v.toJson).toJson levels = .ok k → ofJson? k = some v →
      ∀ x ∈ v.numbers, x.IsReadNearest
  | .null, _, _, x, hx | .bool _, _, _, x, hx | .text _, _, _, x, hx => absurd hx List.not_mem_nil
  | .number y, hread, hof, x, hx => by
    obtain ⟨n, hn⟩ := Json.exists_ofNumber y
    rw [List.mem_singleton.1 hx]
    apply (Json.reread?_of_ofNumber hn).1
    rw [toJson, hn, Draft.readBy] at hread
    cases hm : n.reread? with
    | none =>
      rw [hm] at hread
      cases hread
    | some m =>
      rw [hm] at hread
      cases hread
      obtain ⟨z, hz, he⟩ := Option.map_eq_some_iff.1 hof
      cases he
      exact hz
  | .list vs, hread, hof, x, hx => by
    cases levels with
    | zero => cases hread
    | succ levels =>
      rw [toJson, Draft.readBy, Draft.toJson] at hread
      obtain ⟨ks, hitems, hread⟩ := Json.exists_ok_of_bind hread
      cases hread
      obtain ⟨ws, hws, he⟩ := Option.map_eq_some_iff.1 hof
      cases he
      exact nearest_of_itemsOfJson? hitems hws x hx

theorem nearest_of_itemsOfJson? {levels : Nat} : ∀ {vs : List Value} {ks : List Json},
    Draft.itemsToJson levels (Draft.readByItems Numeral.reread? (itemsToJson vs)) = .ok ks →
      itemsOfJson? ks = some vs → ∀ x ∈ numbersOf vs, x.IsReadNearest
  | [], _, _, _, x, hx => absurd hx List.not_mem_nil
  | v :: vs, ks, hread, hof, x, hx => by
    rw [itemsToJson, Draft.readByItems, Draft.itemsToJson] at hread
    obtain ⟨k, hk, hread⟩ := Json.exists_ok_of_bind hread
    obtain ⟨ks, hks, hread⟩ := Json.exists_ok_of_bind hread
    cases hread
    obtain ⟨w, hw, hof⟩ := Option.bind_eq_some_iff.1 hof
    obtain ⟨ws, hws, he⟩ := Option.bind_eq_some_iff.1 hof
    cases he
    rcases List.mem_append.1 hx with hx | hx
    · exact nearest_of_ofJson? hk hw x hx
    · exact nearest_of_itemsOfJson? hks hws x hx

end

theorem nearest_of_decoder {v : Value}
    (h : decoder source levels (Draft.readBy Numeral.reread? v.toJson) = .ok v) :
    ∀ x ∈ v.numbers, x.IsReadNearest := by
  obtain ⟨k, hk, hof⟩ := Json.exists_ok_of_bind h
  split at hof
  · next w hw =>
    cases hof
    exact nearest_of_ofJson? hk hw
  · cases hof

end Value

theorem Condition.nearest_of_decoder {c : Condition}
    (h : decoder source levels (.object (Draft.readByMembers Numeral.reread? c.members) none)
      = .ok c) : ∀ x ∈ c.value.numbers, x.IsReadNearest := by
  cases levels with
  | zero => cases h
  | succ levels =>
    rw [decoder_members] at h
    obtain ⟨v, hv, he⟩ := Json.exists_ok_of_map h
    have hvalue : v = c.value := congrArg Condition.value he
    rw [hvalue] at hv
    exact Value.nearest_of_decoder hv

theorem Header.fits_members {h : Header} {children : Json} :
    (∀ m ∈ h.members children, Fits levels m.2) ↔ Fits levels children := by
  obtain ⟨id, combinator, negated, edge⟩ := h
  have htext : ∀ s, Fits levels (.text s) := fun s => Nat.zero_le _
  have hbool : ∀ b, Fits levels (.bool b) := fun b => Nat.zero_le _
  cases edge <;> cases negated <;>
    simp [members, Json.optional, Combinator.toJson, htext, hbool]

namespace Group

variable {children : Decoder (List Node)}

theorem decoder_members_ok {h : Header} {j : Json} {g : Group}
    (hdecode : decoderWith children source levels
      (.object (Draft.readByMembers f (h.members j)) none) = .ok g) :
    ∃ l, levels = l + 1 ∧ g.header = h ∧
      children source l (Draft.readBy f j) = .ok g.children := by
  cases levels with
  | zero => cases hdecode
  | succ levels =>
    rw [decoder_members] at hdecode
    obtain ⟨ns, hns, rfl⟩ := Json.exists_ok_of_map hdecode
    exact ⟨levels, rfl, rfl, hns⟩

end Group

namespace Node

variable {children : Decoder (List Node)}

theorem decoderWith_condition_ok {c : Condition} {m : Node}
    (h : decoderWith children source levels (Draft.readBy f (condition c).toJson) = .ok m) :
    Fits levels (condition c).toJson ∧
      ∃ d, Condition.decoder .tagged levels (.object (Draft.readByMembers f c.members) none)
        = .ok d ∧ .condition d = m := by
  have hkeys : "kind" ∉ Json.keys c.members := by simp [Condition.members]
  obtain ⟨hfits, hdecode⟩ := Decoder.tagged_first rfl hkeys h
  exact ⟨hfits, Json.exists_ok_of_map hdecode⟩

theorem decoderWith_group_ok {h : Header} {cs : List Node} {m : Node}
    (hdecode : decoderWith children source levels (Draft.readBy f (group h cs).toJson) = .ok m) :
    Fits levels (group h cs).toJson ∧
      ∃ l ns, levels = l + 1 ∧
        children .tagged l (Draft.readBy f (.list (toJsons cs))) = .ok ns ∧ .group h ns = m := by
  have hkeys : "kind" ∉ Json.keys (h.members (.list (toJsons cs))) := by simp [Header.members]
  obtain ⟨hfits, hdecode⟩ := Decoder.tagged_first rfl hkeys hdecode
  obtain ⟨g, hg, rfl⟩ := Json.exists_ok_of_map hdecode
  obtain ⟨l, hl, rfl, hns⟩ := Group.decoder_members_ok hg
  exact ⟨hfits, l, g.children, hl, hns, rfl⟩

theorem exists_decoderWith {d : Draft} {m : Node} (h : decode source levels d = .ok m) :
    ∃ children, decoderWith children source levels d = .ok m := by
  rcases levels with _ | _ | levels
  · exact ⟨_, h⟩
  · exact ⟨_, h⟩
  · exact ⟨_, h⟩

theorem decode_group_ok {h : Header} {cs : List Node} {m : Node}
    (hdecode : decode source levels (Draft.readBy f (group h cs).toJson) = .ok m) :
    ∃ l ns, Decoder.items (decode .tagged l) (Draft.readByItems f (toJsons cs)) = .ok ns ∧
      .group h ns = m := by
  rcases levels with _ | _ | levels
  · obtain ⟨-, l, ns, hl, -⟩ := decoderWith_group_ok hdecode
    cases hl
  · obtain ⟨-, l, ns, hl, hns, -⟩ := decoderWith_group_ok hdecode
    cases hns
  · obtain ⟨-, l, ns, hl, hns, he⟩ := decoderWith_group_ok hdecode
    obtain ⟨ms, hms, hns⟩ := Json.exists_ok_of_bind hns
    cases hns
    exact ⟨levels, _, hms, he⟩

theorem fits_of_decode {n m : Node} (h : decode source levels (Draft.readBy f n.toJson) = .ok m) :
    Fits levels n.toJson := by
  obtain ⟨children, hwith⟩ := exists_decoderWith h
  cases n with
  | condition c => exact (decoderWith_condition_ok hwith).1
  | group h cs => exact (decoderWith_group_ok hwith).1

theorem fits_of_items {ns ms : List Node}
    (h : Decoder.items (decode source levels) (Draft.readByItems f (toJsons ns)) = .ok ms) :
    ∀ j ∈ toJsons ns, Fits levels j := by
  induction ns generalizing ms with
  | nil => exact fun j hj => absurd hj List.not_mem_nil
  | cons n ns ih =>
    rw [toJsons, Draft.readByItems, Decoder.items] at h
    obtain ⟨m, hm, h⟩ := Json.exists_ok_of_bind h
    obtain ⟨ms', hms, -⟩ := Json.exists_ok_of_bind h
    exact List.forall_mem_cons.2 ⟨fits_of_decode hm, ih hms⟩

mutual

theorem nearest_of_decode {source : Source} {levels : Nat} : ∀ {n : Node},
    decode source levels (Draft.readBy Numeral.reread? n.toJson) = .ok n →
      ∀ c ∈ n.conditions, ∀ x ∈ c.value.numbers, x.IsReadNearest
  | .condition c, h => by
    obtain ⟨children, hwith⟩ := exists_decoderWith h
    obtain ⟨-, d, hd, he⟩ := decoderWith_condition_ok hwith
    cases he
    intro c hc
    rw [List.mem_singleton.1 hc]
    exact Condition.nearest_of_decoder hd
  | .group h cs, hdecode => by
    obtain ⟨l, ns, hns, he⟩ := decode_group_ok hdecode
    cases he
    exact nearest_of_items hns

theorem nearest_of_items {source : Source} {levels : Nat} : ∀ {ns : List Node},
    Decoder.items (decode source levels) (Draft.readByItems Numeral.reread? (toJsons ns)) = .ok ns →
      ∀ c ∈ conditionsOf ns, ∀ x ∈ c.value.numbers, x.IsReadNearest
  | [], _ => fun c hc => absurd hc List.not_mem_nil
  | n :: ns, h => by
    rw [toJsons, Draft.readByItems, Decoder.items] at h
    obtain ⟨m, hm, h⟩ := Json.exists_ok_of_bind h
    obtain ⟨ms, hms, he⟩ := Json.exists_ok_of_bind h
    cases he
    intro c hc
    rcases List.mem_append.1 hc with hc | hc
    · exact nearest_of_decode hm c hc
    · exact nearest_of_items hms c hc

end

end Node

namespace Group

theorem decoder_ok {t u : Tree} (h : decoder source levels (Draft.readBy f t.toJson) = .ok u) :
    ∃ l, levels = l + 2 ∧ u.header = t.header ∧
      Decoder.items (Node.decode source l) (Draft.readByItems f (Node.toJsons t.children))
        = .ok u.children := by
  obtain ⟨l, rfl, hheader, hchildren⟩ := decoder_members_ok h
  cases l with
  | zero => cases hchildren
  | succ l =>
    obtain ⟨ns, hns, he⟩ := Json.exists_ok_of_bind hchildren
    cases he
    exact ⟨l, rfl, hheader, hns⟩

theorem fits_of_decoder {t u : Tree}
    (h : decoder source levels (Draft.readBy f t.toJson) = .ok u) : Fits levels t.toJson := by
  obtain ⟨l, rfl, -, hitems⟩ := decoder_ok h
  have hchildren : Fits (l + 1) (.list (Node.toJsons t.children)) :=
    Json.fits_list.2 ⟨l, rfl, Node.fits_of_items hitems⟩
  exact Json.fits_object.2 ⟨l + 1, rfl, Header.fits_members.2 hchildren⟩

theorem nearest_of_decoder {t : Tree}
    (h : decoder source levels (Draft.readBy Numeral.reread? t.toJson) = .ok t) :
    ∀ x ∈ t.numbers, x.IsReadNearest := by
  obtain ⟨l, -, -, hitems⟩ := decoder_ok h
  intro x hx
  obtain ⟨c, hc, hx⟩ := List.mem_flatMap.1 hx
  exact Node.nearest_of_items hitems c hc x hx

theorem isRead_toJson (t : Tree) : ∀ n ∈ t.toJson.numerals, n.IsRead := by
  intro n hn
  obtain ⟨x, -, hnumber⟩ := exists_number_of_numeral hn
  exact Json.isRead_of_ofNumber hnumber

/-- The JSON of a tree as text is read as the tree if and only if it is not too deep and all its
numbers are read to the nearest number. -/
theorem decoder_reread_iff {t : Tree} :
    decoder source levels (Draft.readBy Numeral.reread? t.toJson) = .ok t ↔
      Fits levels t.toJson ∧ ∀ x ∈ t.numbers, x.IsReadNearest := by
  constructor
  · intro h
    exact ⟨fits_of_decoder h, nearest_of_decoder h⟩
  · rintro ⟨hfits, hnearest⟩
    have hback : ∀ n ∈ t.toJson.numerals, n.IsReadBack := isReadBack_toJson hnearest false
    rw [Draft.readBy_eq fun n hn => (hback n hn).back]
    exact decoder_toJson false hfits

theorem ofText_renderPretty_iff {t : Tree} :
    ofText t.toJson.renderPretty = .ok t ↔
      Fits Json.nestingLimit t.toJson ∧ ∀ x ∈ t.numbers, x.IsReadNearest := by
  rw [ofText, Json.decodeText_renderPretty t.isRead_toJson]
  constructor
  · intro h
    have hsaved : SavedQuery.decoder .buffered Json.nestingLimit _ = .error .mismatch :=
      savedQuery_readBy Numeral.reread? false t .buffered 126
    rw [show t.toJson.arranged false = t.toJson from rfl] at hsaved
    obtain ⟨k, -, h⟩ := Json.exists_ok_of_bind h
    rw [hsaved] at h
    dsimp only at h
    split at h
    · next u hu =>
      cases h
      exact decoder_reread_iff.1 hu
    · cases h
  · rintro ⟨hfits, hnearest⟩
    have hback : ∀ n ∈ t.toJson.numerals, n.IsReadBack := isReadBack_toJson hnearest false
    rw [Draft.readBy_eq fun n hn => (hback n hn).back]
    exact storedDecoder_toJson false .text hfits

end Group

end Criteria
