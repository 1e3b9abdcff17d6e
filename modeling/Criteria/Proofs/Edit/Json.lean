import Criteria.Edit.Json
import Criteria.Proofs.Tree.Reread

namespace Criteria

open Json (Decoder Draft Fits Source)

variable {source : Source} {levels : Nat} (f : Numeral → Option Numeral)

theorem Operator.option_toJson (source : Source) (levels : Nat) (op : Operator) :
    Decoder.option decoder source levels (Draft.readBy f op.toJson) = .ok (some op) := by
  cases op <;> rfl

theorem Value.option_readBy {v : Value} (h : v ≠ .null) :
    Decoder.option decoder source levels (Draft.readBy f v.toJson)
      = (decoder source levels (Draft.readBy f v.toJson)).map some := by
  cases v with
  | null => exact absurd rfl h
  | bool | text | list => rfl
  | number x =>
    obtain ⟨n, hn⟩ := Json.exists_ofNumber x
    rw [toJson, hn]
    rfl

namespace ConditionPatch

/-- The patch without a value that is null. -/
def forgetNull (p : ConditionPatch) : ConditionPatch :=
  { p with value := p.value.filter (· ≠ .null) }

def numbers (p : ConditionPatch) : List Number := (p.value.map Value.numbers).getD []

theorem forgetNull_eq_iff {p : ConditionPatch} : p.forgetNull = p ↔ p.value ≠ some .null := by
  obtain ⟨id, field, operator, value, edge⟩ := p
  cases value with
  | none => simp [forgetNull]
  | some v => simp [forgetNull, Option.filter_eq_some_iff]

theorem decoder_readBy (p : ConditionPatch) :
    decoder source (levels + 1) (Draft.readBy f p.toJson)
      = (Decoder.readPart (.option Value.decoder) source levels f Value.toJson p.value).map
        fun value => { p with value } := by
  have hoperator := Operator.option_toJson f source levels
  have hedge := Combinator.option_toJson f source levels
  simp only [toJson, List.append_assoc, Draft.readBy, decoder, Decoder.record]
  rw [Decoder.members_optional "id" rfl (by simp) (fun s => rfl) rfl,
    Decoder.members_optional "fieldName" rfl (by simp) (fun s => rfl) rfl,
    Decoder.members_optional "operator" rfl (by simp) hoperator rfl]
  cases hvalue : Decoder.readPart (.option Value.decoder) source levels f Value.toJson p.value with
  | error fault =>
    rw [Decoder.members_part_fault "value" rfl hvalue]
    rfl
  | ok v =>
    rw [Decoder.members_part "value" rfl (by simp) hvalue rfl,
      ← List.append_nil (Json.optional _ _ _),
      Decoder.members_optional "edgeCombinator" rfl (by simp) hedge rfl]
    rfl

theorem decoder_toJson {p : ConditionPatch} (h : Fits levels p.toJson) :
    decoder source levels (Draft.ofJson p.toJson) = .ok p.forgetNull := by
  obtain ⟨l, rfl, hmembers⟩ := Json.fits_object.1 h
  rw [← Draft.readBy_some, decoder_readBy, forgetNull]
  cases hvalue : p.value with
  | none => rfl
  | some v =>
    have hfits : Fits l v.toJson := by
      apply hmembers ("value", v.toJson)
      simp [hvalue, Json.optional]
    rw [Decoder.readPart, Option.elim_some]
    -- A value is written the same way as its part, so null looks like no part at all.
    by_cases hnull : v = .null
    · rw [hnull]
      rfl
    · have hkept : (some v).filter (· ≠ .null) = some v := by simp [hnull]
      rw [Value.option_readBy some hnull, Draft.readBy_some, Value.decoder_toJson source hfits,
        hkept]
      rfl

theorem exists_number_of_numeral {p : ConditionPatch} {n : Numeral} (h : n ∈ p.toJson.numerals) :
    ∃ x ∈ p.numbers, Json.ofNumber x = .number n := by
  have hvalue : ∃ v, p.value = some v ∧ n ∈ v.toJson.numerals := by
    simpa [toJson, Json.numerals, Operator.toJson, Combinator.toJson] using h
  obtain ⟨v, hv, hn⟩ := hvalue
  rw [numbers, hv]
  exact v.exists_number_of_numeral hn

theorem nearest_of_decoder {p : ConditionPatch}
    (h : decoder source levels (Draft.readBy Numeral.reread? p.toJson) = .ok p) :
    p.value ≠ some .null ∧ ∀ x ∈ p.numbers, x.IsReadNearest := by
  cases levels with
  | zero => cases h
  | succ l =>
    rw [decoder_readBy] at h
    obtain ⟨value, hread, he⟩ := Json.exists_ok_of_map h
    have hvalue : value = p.value := congrArg ConditionPatch.value he
    rw [hvalue] at hread
    rw [numbers]
    cases hp : p.value with
    | none => exact ⟨nofun, fun x hx => absurd hx List.not_mem_nil⟩
    | some v =>
      rw [hp, Decoder.readPart, Option.elim_some] at hread
      -- Had null been written, nothing would have been read.
      have hnull : v ≠ .null := by
        rintro rfl
        cases hread
      rw [Value.option_readBy Numeral.reread? hnull] at hread
      obtain ⟨w, hw, he⟩ := Json.exists_ok_of_map hread
      cases he
      refine ⟨fun hsome => hnull (Option.some.inj hsome), ?_⟩
      exact Value.nearest_of_decoder hw

end ConditionPatch

theorem GroupPatch.decoder_toJson {p : GroupPatch} (h : Fits levels p.toJson) :
    decoder source levels (Draft.ofJson p.toJson) = .ok p := by
  obtain ⟨l, rfl, -⟩ := Json.fits_object.1 h
  have hcombinator := Combinator.option_toJson some source l
  simp only [← Draft.readBy_some, toJson, List.append_assoc, Draft.readBy, decoder, Decoder.record]
  rw [Decoder.members_optional "id" rfl (by simp) (fun s => rfl) rfl,
    Decoder.members_optional "defaultCombinator" rfl (by simp) hcombinator rfl,
    Decoder.members_optional "negate" rfl (by simp) (fun b => rfl) rfl,
    ← List.append_nil (Json.optional "edgeCombinator" _ _),
    Decoder.members_optional "edgeCombinator" rfl (by simp) hcombinator rfl]
  rfl

theorem GroupPatch.numerals_toJson (p : GroupPatch) : p.toJson.numerals = [] := by
  rw [List.eq_nil_iff_forall_not_mem]
  intro n
  simp [toJson, Json.numerals, Combinator.toJson]

theorem Condition.decoder_toJson {c : Condition} (h : Fits levels c.toJson) :
    decoder source levels (Draft.ofJson c.toJson) = .ok c := by
  obtain ⟨l, rfl, hmembers⟩ := Json.fits_object.1 h
  have hvalue : Fits l c.value.toJson := hmembers ("value", c.value.toJson) (by simp [members])
  exact decoder_arranged false hvalue

namespace Mutation

/-- The mutation with a patch that leaves a value alone in place of one that sets it to null. -/
def forgetNull : Mutation → Mutation
  | updateCondition node patch => updateCondition node patch.forgetNull
  | m => m

/-- The numbers in the values of a mutation. -/
def numbers : Mutation → List Number
  | addCondition _ condition => (condition.map (·.value.numbers)).getD []
  | addGroup _ child => (child.map Group.numbers).getD []
  | updateCondition _ patch => patch.numbers
  | _ => []

/-- The index of a move has no more than 64 bits. -/
def HasWordIndex : Mutation → Prop
  | moveNode _ _ index => index < Nat.pow 2 64
  | _ => True

/-- Whether the mutation is a patch that sets a value to null. -/
def SetsNull : Mutation → Prop
  | updateCondition _ patch => patch.value = some .null
  | _ => False

section bodies

variable {α : Type} {key other id : String} {decode : Decoder α} {absent : Option α}
variable {make : String → α → Mutation} {j : Json}

theorem about_readBy (make : String → Mutation) :
    about key make source (levels + 1)
        (.object (Draft.readByMembers f [(key, .text id)]) none) = .ok (make id) := by
  rw [about, Decoder.record, Decoder.members_cons key (Decoder.find_slot key _ _) (by simp) rfl]
  rfl

theorem aboutWith_readBy (hkeys : key ≠ other) :
    aboutWith key other decode absent make source (levels + 1)
        (.object (Draft.readByMembers f [(key, .text id), (other, j)]) none)
      = (decode source levels (Draft.readBy f j)).map (make id) := by
  rw [aboutWith, Decoder.record,
    Decoder.members_cons key (Decoder.find_slot key _ _) (by simp [hkeys]) rfl]
  cases hread : decode source levels (Draft.readBy f j) with
  | error fault =>
    rw [Decoder.members_fault other
      ((Decoder.find_later_slot hkeys).trans (Decoder.find_slot other _ _)) hread]
    rfl
  | ok a =>
    rw [Decoder.members_cons other
      ((Decoder.find_later_slot hkeys).trans (Decoder.find_slot other _ _)) (by simp) hread]
    rfl

theorem moveDecoder_readBy {node group : String} {index : Nat}
    (hindex : f (.int index) = some (.int index)) :
    moveDecoder source (levels + 1)
        (.object (Draft.readByMembers f [("nodeId", .text node), ("targetGroupId", .text group),
          ("index", .ofNat index)]) none)
      = .ok (.moveNode node group index) := by
  have hread : Decoder.natural source levels (Draft.readBy f (.ofNat index)) = .ok index := by
    rw [Json.ofNat, Json.ofInt, Draft.readBy, hindex]
    rfl
  rw [moveDecoder, Decoder.record, Decoder.members_cons "nodeId" rfl (by simp) rfl,
    Decoder.members_cons "targetGroupId" rfl (by simp) rfl,
    Decoder.members_cons "index" rfl (by simp) hread]
  rfl

end bodies

section tagged

variable {α : Type} {kinds : List (String × Decoder Mutation)} {kind key other id : String}
variable {make : String → α → Mutation} {decode : Decoder α} {absent : Option α} {j : Json}

theorem tagged_about {make : String → Mutation}
    (hkind : Decoder.lookup kinds kind = .ok (about key make))
    (htype : "type" ∉ Json.keys [(key, .text id)])
    (hfits : Fits levels (.object [("type", .text kind), (key, .text id)])) :
    Decoder.tagged "type" kinds source levels
        (Draft.ofJson (.object [("type", .text kind), (key, .text id)]))
      = .ok (make id) := by
  rw [Decoder.tagged_ofJson hkind htype hfits]
  obtain ⟨l, rfl, -⟩ := Json.fits_object.1 hfits
  exact about_readBy some make

theorem tagged_aboutWith {a : α}
    (hkind : Decoder.lookup kinds kind = .ok (aboutWith key other decode absent make))
    (hkeys : key ≠ other) (htype : "type" ∉ Json.keys [(key, .text id), (other, j)])
    (hfits : Fits levels (.object [("type", .text kind), (key, .text id), (other, j)]))
    (hread : ∀ l, Fits l j → decode .tagged l (Draft.ofJson j) = .ok a) :
    Decoder.tagged "type" kinds source levels
        (Draft.ofJson (.object [("type", .text kind), (key, .text id), (other, j)]))
      = .ok (make id a) := by
  rw [Decoder.tagged_ofJson hkind htype hfits]
  obtain ⟨l, rfl, hmembers⟩ := Json.fits_object.1 hfits
  have hj : Fits l j := hmembers (other, j) (by simp)
  rw [aboutWith_readBy some hkeys, Draft.readBy_some, hread l hj]
  rfl

theorem exists_part_of_tagged {m : Mutation}
    (hkind : Decoder.lookup kinds kind = .ok (aboutWith key other decode absent make))
    (hkeys : key ≠ other) (htype : "type" ∉ Json.keys [(key, .text id), (other, j)])
    (h : Decoder.tagged "type" kinds source levels
      (Draft.readBy f (.object [("type", .text kind), (key, .text id), (other, j)])) = .ok m) :
    ∃ l a, decode .tagged l (Draft.readBy f j) = .ok a ∧ make id a = m := by
  obtain ⟨hfits, hbody⟩ := Decoder.tagged_first hkind htype h
  obtain ⟨l, rfl, -⟩ := Json.fits_object.1 hfits
  rw [aboutWith_readBy f hkeys] at hbody
  exact ⟨l, Json.exists_ok_of_map hbody⟩

end tagged

/-- The JSON of a mutation is decoded as the mutation, but for a value that is set to null. -/
theorem decoder_toJson {m : Mutation} (h : Fits levels m.toJson) :
    decoder source levels (Draft.ofJson m.toJson) = .ok m.forgetNull := by
  cases m with
  | addCondition group condition =>
    refine tagged_aboutWith rfl (by simp) (by simp) h fun l hl => ?_
    cases condition with
    | none => rfl
    | some c => exact congrArg (Except.map some) (Condition.decoder_toJson hl)
  | addGroup group child =>
    refine tagged_aboutWith rfl (by simp) (by simp) h fun l hl => ?_
    cases child with
    | none => rfl
    | some g => exact congrArg (Except.map some) (Group.decoder_toJson false hl)
  | updateCondition node patch =>
    exact tagged_aboutWith rfl (by simp) (by simp) h fun l hl => ConditionPatch.decoder_toJson hl
  | updateGroup group patch =>
    exact tagged_aboutWith rfl (by simp) (by simp) h fun l hl => GroupPatch.decoder_toJson hl
  | deleteNode node => exact tagged_about rfl (by simp) h
  | cloneNode node after => exact tagged_aboutWith rfl (by simp) (by simp) h fun l hl => rfl
  | moveNode node group index =>
    rw [decoder, toJson, Decoder.tagged_ofJson rfl (by simp) h]
    obtain ⟨l, rfl, -⟩ := Json.fits_object.1 h
    exact moveDecoder_readBy some rfl
  | setCombinator group combinator =>
    refine tagged_aboutWith rfl (by simp) (by simp) h fun l hl => ?_
    rw [← Draft.readBy_some]
    exact Combinator.decoder_toJson some .tagged l combinator
  | setEdge node edge =>
    refine tagged_aboutWith rfl (by simp) (by simp) h fun l hl => ?_
    cases edge with
    | none => rfl
    | some c =>
      rw [Json.ofOption, ← Draft.readBy_some]
      exact Combinator.option_toJson some .tagged l c
  | toggleNegation group => exact tagged_about rfl (by simp) h

theorem forgetNull_eq_iff {m : Mutation} : m.forgetNull = m ↔ ¬ m.SetsNull := by
  cases m with
  | updateCondition node patch =>
    rw [forgetNull, SetsNull, updateCondition.injEq]
    exact (and_iff_right rfl).trans ConditionPatch.forgetNull_eq_iff
  | _ => exact iff_of_true rfl id

/-- The text of a mutation is read as the same mutation only if it sets no value to null and all its
numbers are read to the nearest number. -/
theorem nearest_of_decoder {m : Mutation}
    (h : decoder source levels (Draft.readBy Numeral.reread? m.toJson) = .ok m) :
    ¬ m.SetsNull ∧ ∀ x ∈ m.numbers, x.IsReadNearest := by
  cases m with
  | addCondition group condition =>
    refine ⟨id, ?_⟩
    cases condition with
    | none => exact fun x hx => absurd hx List.not_mem_nil
    | some c =>
      obtain ⟨l, part, hpart, he⟩ := exists_part_of_tagged _ rfl (by simp) (by simp) h
      cases he
      obtain ⟨d, hd, he⟩ := Json.exists_ok_of_map hpart
      cases he
      exact Condition.nearest_of_decoder hd
  | addGroup group child =>
    refine ⟨id, ?_⟩
    cases child with
    | none => exact fun x hx => absurd hx List.not_mem_nil
    | some g =>
      obtain ⟨l, part, hpart, he⟩ := exists_part_of_tagged _ rfl (by simp) (by simp) h
      cases he
      obtain ⟨t, ht, he⟩ := Json.exists_ok_of_map hpart
      cases he
      exact Group.nearest_of_decoder ht
  | updateCondition node patch =>
    obtain ⟨l, p, hp, he⟩ := exists_part_of_tagged _ rfl (by simp) (by simp) h
    cases he
    exact ConditionPatch.nearest_of_decoder hp
  | _ => exact ⟨id, fun x hx => absurd hx List.not_mem_nil⟩

theorem numerals_toJson {m : Mutation} {n : Numeral} (h : n ∈ m.toJson.numerals) :
    (∃ x ∈ m.numbers, Json.ofNumber x = .number n) ∨
      ∃ node group index, m = moveNode node group index ∧ n = .int index := by
  cases m with
  | addCondition group condition =>
    left
    cases condition with
    | none => cases h
    | some c =>
      have hmembers : n ∈ Json.numeralsOfMembers c.members := by
        simpa [toJson, Json.numerals, Json.numeralsOfMembers, Json.ofOption,
          Condition.toJson] using h
      exact Value.exists_number_of_numeral c.value (Condition.numerals_members.1 hmembers)
  | addGroup group child =>
    left
    cases child with
    | none => cases h
    | some g =>
      have htree : n ∈ g.toJson.numerals := by
        simpa [toJson, Json.numerals, Json.numeralsOfMembers, Json.ofOption] using h
      exact Group.exists_number_of_numeral htree
  | updateCondition node patch =>
    left
    have hpatch : n ∈ patch.toJson.numerals := by
      simpa [toJson, Json.numerals, Json.numeralsOfMembers] using h
    exact ConditionPatch.exists_number_of_numeral hpatch
  | updateGroup group patch =>
    simp [toJson, Json.numerals, Json.numeralsOfMembers, patch.numerals_toJson] at h
  | moveNode node group index =>
    right
    exact ⟨node, group, index, rfl, List.mem_singleton.1 h⟩
  | setEdge node edge => cases edge <;> cases h
  | _ => cases h

theorem isRead_toJson {m : Mutation} (hindex : m.HasWordIndex) :
    ∀ n ∈ m.toJson.numerals, n.IsRead := by
  intro n hn
  rcases numerals_toJson hn with ⟨x, -, hnumber⟩ | ⟨node, group, index, rfl, rfl⟩
  · exact Json.isRead_of_ofNumber hnumber
  · exact (Numeral.isReadBack_index hindex).toIsRead

theorem isReadBack_toJson {m : Mutation} (hindex : m.HasWordIndex)
    (hnearest : ∀ x ∈ m.numbers, x.IsReadNearest) : ∀ n ∈ m.toJson.numerals, n.IsReadBack := by
  intro n hn
  rcases numerals_toJson hn with ⟨x, hx, hnumber⟩ | ⟨node, group, index, rfl, rfl⟩
  · exact Json.isReadBack_of_ofNumber hnumber (hnearest x hx)
  · exact Numeral.isReadBack_index hindex

theorem decodeText_toJson {m : Mutation} (hindex : m.HasWordIndex) :
    ∀ s ∈ [m.toJson.render, m.toJson.renderPretty],
      (Draft.ofText s).draft = Draft.readBy Numeral.reread? m.toJson ∧
        Json.decodeText decoder s
          = decoder .text Json.nestingLimit (Draft.readBy Numeral.reread? m.toJson) := by
  have hread := isRead_toJson hindex
  intro s hs
  simp only [List.mem_cons, List.not_mem_nil, or_false] at hs
  rcases hs with rfl | rfl
  · rw [Json.decodeText_render hread, Json.ofText_written hread]
    exact ⟨rfl, rfl⟩
  · rw [Json.decodeText_renderPretty hread, Json.ofText_writtenPretty hread]
    exact ⟨rfl, rfl⟩

theorem decoder_reread {m : Mutation} (hindex : m.HasWordIndex) (hfits : Fits levels m.toJson)
    (hnearest : ∀ x ∈ m.numbers, x.IsReadNearest) :
    decoder source levels (Draft.readBy Numeral.reread? m.toJson) = .ok m.forgetNull := by
  have hback := isReadBack_toJson hindex hnearest
  rw [Draft.readBy_eq fun n hn => (hback n hn).back]
  exact decoder_toJson hfits

theorem decoder_reread_iff {m : Mutation} (hindex : m.HasWordIndex) (hfits : Fits levels m.toJson) :
    decoder source levels (Draft.readBy Numeral.reread? m.toJson) = .ok m ↔
      ¬ m.SetsNull ∧ ∀ x ∈ m.numbers, x.IsReadNearest := by
  constructor
  · exact nearest_of_decoder
  · rintro ⟨hnull, hnearest⟩
    rw [decoder_reread hindex hfits hnearest, forgetNull_eq_iff.2 hnull]

end Mutation

/-- A mutation comes back from its JSON if and only if it is no patch that sets a value to null;
such a patch comes back as one that leaves the value alone. It comes back from the text of its JSON,
compact or indented, if besides the literals of all its numbers are read to the nearest number. -/
theorem mutation_round_trip_iff (m : Mutation) (hindex : m.HasWordIndex) :
    Json.decodeValue Mutation.decoder m.toJson = .ok m.forgetNull ∧
      (Json.decodeValue Mutation.decoder m.toJson = .ok m ↔ ¬ m.SetsNull) ∧
      ∀ s ∈ [m.toJson.render, m.toJson.renderPretty],
        (Draft.ofText s).draft.depth ≤ Json.nestingLimit →
          ((∀ x ∈ m.numbers, x.IsReadNearest) →
            Json.decodeText Mutation.decoder s = .ok m.forgetNull) ∧
          (Json.decodeText Mutation.decoder s = .ok m ↔
            ¬ m.SetsNull ∧ ∀ x ∈ m.numbers, x.IsReadNearest) := by
  have hvalue : Json.decodeValue Mutation.decoder m.toJson = .ok m.forgetNull :=
    Mutation.decoder_toJson (Nat.le_refl _)
  refine ⟨hvalue, ?_, ?_⟩
  · rw [hvalue, Except.ok.injEq]
    exact Mutation.forgetNull_eq_iff
  · intro s hs hdepth
    obtain ⟨hdraft, hdecode⟩ := Mutation.decodeText_toJson hindex s hs
    rw [hdraft, Draft.depth_readBy] at hdepth
    rw [hdecode]
    exact ⟨Mutation.decoder_reread hindex hdepth, Mutation.decoder_reread_iff hindex hdepth⟩

/-- A patch of everything but the id, with a fraction and a list. -/
theorem mutation_round_trip_iff_patch :
    let half : Number := ⟨true, 5 * Nat.pow 2 50, 1023, by decide, by decide, by decide, by decide⟩
    let patch : ConditionPatch :=
      { field := some "a\"b", operator := some .between,
        value := some (.list [.number half, .null]), edge := some .or }
    let m : Mutation := .updateCondition "c" patch
    m.HasWordIndex ∧ Json.decodeValue Mutation.decoder m.toJson = .ok m ∧
      (Draft.ofText m.toJson.render).draft.depth ≤ Json.nestingLimit ∧
      Json.decodeText Mutation.decoder m.toJson.render = .ok m := by
  intro half patch m
  have hindex : m.HasWordIndex := trivial
  have hnull : ¬ m.SetsNull := by
    rintro ⟨⟩
  have hnearest : ∀ x ∈ m.numbers, x.IsReadNearest := by decide +kernel
  have hdepth : (Draft.ofText m.toJson.render).draft.depth ≤ Json.nestingLimit := by
    rw [(Mutation.decodeText_toJson hindex m.toJson.render (by simp)).1]
    decide +kernel
  obtain ⟨-, hvalue, htext⟩ := mutation_round_trip_iff m hindex
  exact ⟨hindex, hvalue.2 hnull, hdepth, (htext _ (by simp) hdepth).2.2 ⟨hnull, hnearest⟩⟩

/-- A patch that sets a value to null is read as one that changes nothing. -/
theorem null_patch_not_read :
    let m : Mutation := .updateCondition "c" { value := some .null }
    (Draft.ofText m.toJson.render).draft.depth ≤ Json.nestingLimit ∧
      Json.decodeText Mutation.decoder m.toJson.render = .ok (.updateCondition "c" {}) ∧
      m ≠ .updateCondition "c" {} := by
  intro m
  obtain ⟨hdraft, hdecode⟩ := Mutation.decodeText_toJson (m := m) trivial m.toJson.render (by simp)
  rw [hdraft, hdecode]
  exact ⟨by decide, rfl, by decide⟩

end Criteria
