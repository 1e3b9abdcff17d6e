import Criteria.Catalog.Json
import Criteria.Proofs.Json.Numeral
import Criteria.Proofs.Tree.Reread

namespace Criteria

open Json (Decoder Draft Fits Source)

variable {source : Source} {levels : Nat} {f : Numeral → Option Numeral}

namespace Bound

/-- Whether the literal of the bound is read as the number nearest to what it spells. -/
def IsReadNearest (b : Bound) : Prop :=
  (Spelling.ofChars? (b.value.layOut .json)).bind Json.Numeral.approximate?
    = Number.ofChars? (b.value.layOut .json)

instance (b : Bound) : Decidable b.IsReadNearest := inferInstanceAs (Decidable (_ = _))

/-- The bound that the numeral of a bound is read as, with `f` for how numerals are read. -/
def readBy? (f : Numeral → Option Numeral) (b : Bound) : Option Bound :=
  (f b.toNumeral).bind ofNumeral?

theorem ofNumeral?_toNumeral (b : Bound) : ofNumeral? b.toNumeral = some b := by
  obtain ⟨x, minusZero, hzero⟩ := b
  cases minusZero with
  | false => rfl
  | true =>
    cases hzero rfl
    rfl

theorem isRead_toNumeral (b : Bound) : b.toNumeral.IsRead := by
  rw [toNumeral]
  split
  · exact Numeral.isRead_negativeZero
  · exact Numeral.isRead_real b.value

theorem ofNumeral?_eq_some {n : Numeral} {b : Bound} (hb : b.value ≠ .zero) :
    ofNumeral? n = some b ↔ n.toNumber? = some b.value := by
  cases n with
  | negativeZero =>
    constructor
    · intro h
      cases h
      exact absurd rfl hb
    · intro h
      exact absurd (Option.some.inj h).symm hb
  | _ =>
    rw [ofNumeral?, Option.map_eq_some_iff]
    · constructor
      · rintro ⟨x, hx, rfl⟩
        exact hx
      · intro h
        refine ⟨b.value, h, ?_⟩
        obtain ⟨x, minusZero, hminus⟩ := b
        cases minusZero with
        | false => rfl
        | true => exact absurd (hminus rfl) hb
    · intro h
      cases h

theorem isReadNearest_of_zero {b : Bound} (h : b.value = .zero) : b.IsReadNearest := by
  rw [IsReadNearest, h]
  decide +kernel

theorem readBy?_of_zero {b : Bound} (h : b.value = .zero) :
    b.readBy? Numeral.reread? = some b := by
  have hread : b.toNumeral.reread? = some b.toNumeral := by
    rw [toNumeral]
    split
    · rfl
    · rw [h]
      decide +kernel
  rw [readBy?, hread, Option.bind_some, ofNumeral?_toNumeral]

/-- A bound comes back from its literal if and only if that is read to the nearest number. -/
theorem readBy?_eq_iff (b : Bound) : b.readBy? Numeral.reread? = some b ↔ b.IsReadNearest := by
  by_cases hzero : b.value = .zero
  · exact iff_of_true (readBy?_of_zero hzero) (isReadNearest_of_zero hzero)
  · obtain ⟨x, minusZero, hminus⟩ := b
    cases minusZero with
    | true => exact absurd (hminus rfl) hzero
    | false =>
      obtain ⟨s, -, -, -, -, hspelled, hnumber⟩ := Numeral.real_cases x
      have hread : (Numeral.real x).reread? = Json.Numeral.ofSpelling? false s := by
        rw [Numeral.reread?, hspelled, Option.bind_some]
      rw [IsReadNearest, hspelled, hnumber, Option.bind_some, ← Numeral.toNumber?_ofSpelling?,
        readBy?, toNumeral, if_neg Bool.false_ne_true, hread]
      cases Json.Numeral.ofSpelling? false s with
      | none => simp only [Option.bind_none, reduceCtorEq]
      | some n => exact ofNumeral?_eq_some hzero

theorem decoder_readBy {b b' : Bound} :
    decoder source levels (Draft.readBy f (.number b.toNumeral)) = .ok b' ↔
      b.readBy? f = some b' := by
  rw [readBy?, Draft.readBy, decoder, Decoder.checked]
  cases f b.toNumeral with
  | none =>
    refine iff_of_false ?_ (Option.some_ne_none b').symm
    intro h
    cases h
  | some n =>
    rw [Option.bind_some, Decoder.numeral]
    dsimp only [bind, Except.bind]
    split
    · next c hc => rw [hc, Except.ok.injEq, Option.some.injEq]
    · next hnone => simp only [hnone, reduceCtorEq]

theorem readPart_readBy (source : Source) (levels : Nat) {o p : Option Bound} :
    Decoder.readPart (.option decoder) source levels f (fun b => .number b.toNumeral) o = .ok p ↔
      Option.Rel (fun b b' => b.readBy? f = some b') o p := by
  apply Decoder.readPart_eq_ok
  · intro b
    rfl
  · intro b _ b'
    exact decoder_readBy

end Bound

namespace Constraints

/-- The constraints are data: they have no test of the caller's, and their lengths have no more than
64 bits. -/
structure IsData (c : Constraints) : Prop where
  custom : c.custom = .none
  minLength : ∀ n ∈ c.minLength, n < Nat.pow 2 64
  maxLength : ∀ n ∈ c.maxLength, n < Nat.pow 2 64

def bounds (c : Constraints) : List Bound := c.min.toList ++ c.max.toList

/-- The same constraints with the bounds that their numerals are read as. -/
def IsReadAs (f : Numeral → Option Numeral) (c d : Constraints) : Prop :=
  ∃ min max, Option.Rel (fun b b' => b.readBy? f = some b') c.min min ∧
    Option.Rel (fun b b' => b.readBy? f = some b') c.max max ∧ d = { c with min, max }

theorem decoder_readBy (c : Constraints) (hf : ∀ n, f (.int n) = some (.int n)) :
    decoder source (levels + 1) (Draft.readBy f c.toJson)
      = (Decoder.readPart (.option Bound.decoder) source levels f (fun b => .number b.toNumeral)
          c.min).bind fun min =>
        (Decoder.readPart (.option Bound.decoder) source levels f (fun b => .number b.toNumeral)
          c.max).map fun max => { c with min, max, custom := .none } := by
  have hlength (n : Nat) : Decoder.option .natural source levels (Draft.readBy f (Json.ofNat n))
      = .ok (some n) := by
    rw [Json.ofNat, Json.ofInt, Draft.readBy, hf]
    rfl
  simp only [toJson, List.append_assoc, Draft.readBy, decoder, Decoder.record]
  cases hmin : Decoder.readPart (.option Bound.decoder) source levels f
      (fun b => .number b.toNumeral) c.min with
  | error fault =>
    rw [Decoder.members_part_fault "min" rfl hmin]
    rfl
  | ok min =>
    rw [Decoder.members_part "min" rfl (by simp) hmin rfl]
    cases hmax : Decoder.readPart (.option Bound.decoder) source levels f
        (fun b => .number b.toNumeral) c.max with
    | error fault =>
      rw [Decoder.members_part_fault "max" rfl hmax]
      rfl
    | ok max =>
      rw [Decoder.members_part "max" rfl (by simp) hmax rfl,
        Decoder.members_optional "minLength" rfl (by simp) hlength rfl,
        Decoder.members_optional "maxLength" rfl (by simp) hlength rfl,
        Decoder.members_optional "pattern" rfl (by simp) (fun s => rfl) rfl,
        Decoder.members_optional "message" rfl (by simp) (fun s => rfl) rfl,
        ← List.append_nil (Json.optional "suggestion" _ _),
        Decoder.members_optional "suggestion" rfl (by simp) (fun s => rfl) rfl]
      rfl

theorem decoder_eq_ok {c d : Constraints} (hc : c.custom = .none)
    (hf : ∀ n, f (.int n) = some (.int n)) :
    decoder source (levels + 1) (Draft.readBy f c.toJson) = .ok d ↔ c.IsReadAs f d := by
  rw [decoder_readBy c hf]
  constructor
  · intro h
    obtain ⟨min, hmin, h⟩ := Json.exists_ok_of_bind h
    obtain ⟨max, hmax, rfl⟩ := Json.exists_ok_of_map h
    rw [Bound.readPart_readBy] at hmin hmax
    refine ⟨min, max, hmin, hmax, ?_⟩
    rw [← hc]
  · rintro ⟨min, max, hmin, hmax, rfl⟩
    rw [← Bound.readPart_readBy source levels] at hmin hmax
    rw [hmin, hmax, ← hc]
    rfl

theorem isReadAs_self {c : Constraints} :
    c.IsReadAs f c ↔ ∀ b ∈ c.bounds, b.readBy? f = some b := by
  have hrel (o : Option Bound) : Option.Rel (fun b b' => b.readBy? f = some b') o o ↔
      ∀ b ∈ o.toList, b.readBy? f = some b := by
    cases o with
    | none => exact iff_of_true .none fun b hb => absurd hb List.not_mem_nil
    | some b =>
      rw [Option.toList_some, List.forall_mem_singleton]
      constructor
      · rintro ⟨h⟩
        exact h
      · intro h
        exact .some h
  rw [bounds, List.forall_mem_append, ← hrel, ← hrel]
  constructor
  · rintro ⟨min, max, hmin, hmax, he⟩
    have hcmin : c.min = min := congrArg Constraints.min he
    have hcmax : c.max = max := congrArg Constraints.max he
    rw [← hcmin] at hmin
    rw [← hcmax] at hmax
    exact ⟨hmin, hmax⟩
  · rintro ⟨hmin, hmax⟩
    exact ⟨c.min, c.max, hmin, hmax, rfl⟩

theorem numerals_toJson {c : Constraints} {n : Numeral} (h : n ∈ c.toJson.numerals) :
    (∃ b, n = Bound.toNumeral b) ∨ ∃ l, (l ∈ c.minLength ∨ l ∈ c.maxLength) ∧ n = .int l := by
  simp only [toJson, Json.numerals, Json.numeralsOfMembers_append, List.mem_append,
    Json.mem_numerals_optional, Json.ofNat, Json.ofInt, List.mem_singleton, List.not_mem_nil,
    and_false, exists_false, or_false] at h
  rcases h with ((⟨b, -, hb⟩ | ⟨b, -, hb⟩) | ⟨l, hl, hn⟩) | ⟨l, hl, hn⟩
  · exact .inl ⟨b, hb⟩
  · exact .inl ⟨b, hb⟩
  · exact .inr ⟨l, .inl hl, hn⟩
  · exact .inr ⟨l, .inr hl, hn⟩

theorem isRead_toJson {c : Constraints} (h : c.IsData) : ∀ n ∈ c.toJson.numerals, n.IsRead := by
  intro n hn
  rcases numerals_toJson hn with ⟨b, rfl⟩ | ⟨l, hl, rfl⟩
  · exact b.isRead_toNumeral
  · have hword : l < Nat.pow 2 64 := by
      rcases hl with hl | hl
      · exact h.minLength l hl
      · exact h.maxLength l hl
    exact (Numeral.isReadBack_index hword).toIsRead

theorem fits_toJson (c : Constraints) : Fits (levels + 1) c.toJson := by
  rw [toJson, Json.fits_object_succ]
  simp only [List.forall_mem_append]
  exact ⟨⟨⟨⟨⟨⟨Json.fits_optional fun b => Nat.zero_le _, Json.fits_optional fun b => Nat.zero_le _⟩,
    Json.fits_optional fun n => Nat.zero_le _⟩, Json.fits_optional fun n => Nat.zero_le _⟩,
    Json.fits_optional fun s => Nat.zero_le _⟩, Json.fits_optional fun s => Nat.zero_le _⟩,
    Json.fits_optional fun s => Nat.zero_le _⟩

end Constraints

theorem FieldType.decoder_readBy (t : FieldType) :
    decoder source levels (Draft.readBy f (.text t.name)) = .ok t := by
  cases t <;> rfl

theorem FieldOption.decoder_readBy (o : FieldOption) :
    decoder source (levels + 1) (Draft.readBy f o.toJson) = .ok o := by
  simp only [toJson, Draft.readBy, decoder, Decoder.record]
  rw [Decoder.members_cons "value" rfl (by simp) rfl,
    Decoder.members_cons "label" rfl (by simp) rfl]
  rfl

namespace Field

def bounds (x : Field) : List Bound := (x.constraints.map Constraints.bounds).getD []

/-- The same field with the bounds that their numerals are read as. -/
def IsReadAs (f : Numeral → Option Numeral) (x y : Field) : Prop :=
  ∃ constraints, Option.Rel (Constraints.IsReadAs f) x.constraints constraints ∧
    y = { x with constraints }

theorem operators_readBy (source : Source) (f : Numeral → Option Numeral) {x : Field}
    (h : Fits (levels + 1) x.toJson) :
    Decoder.readPart (.option (.list Operator.decoder)) source levels f
        (fun ops => .list (ops.map Operator.toJson)) x.allowedOperators
      = .ok x.allowedOperators := by
  cases hops : x.allowedOperators with
  | none => rfl
  | some ops =>
    have hfits : Fits levels (.list (ops.map Operator.toJson)) := by
      apply Json.fits_object_succ.1 h ("allowedOperators", _)
      simp [Json.mem_optional, hops]
    obtain ⟨l, rfl, -⟩ := Json.fits_list.1 hfits
    have hread : Decoder.list Operator.decoder source (l + 1)
        (Draft.readBy f (.list (ops.map Operator.toJson))) = .ok ops := by
      rw [Decoder.list_eq_ok, List.forall₂_map_left_iff, List.forall₂_same]
      intro op _
      exact Operator.decoder_toJson f source l op
    exact congrArg (Except.map some) hread

theorem options_readBy {x : Field} (h : Fits (levels + 1) x.toJson)
    (hne : ¬ x.options.isEmpty = true) :
    Decoder.list FieldOption.decoder source levels
      (Draft.readBy f (.list (x.options.map FieldOption.toJson))) = .ok x.options := by
  have hfits : Fits levels (.list (x.options.map FieldOption.toJson)) := by
    apply Json.fits_object_succ.1 h ("options", _)
    simp [hne]
  obtain ⟨l, rfl, hitems⟩ := Json.fits_list.1 hfits
  rw [Decoder.list_eq_ok, List.forall₂_map_left_iff, List.forall₂_same]
  intro o ho
  obtain ⟨k, rfl, -⟩ := Json.fits_object.1 (hitems _ (List.mem_map_of_mem ho))
  exact o.decoder_readBy

theorem decoder_readBy {x : Field} (h : Fits (levels + 1) x.toJson) :
    decoder source (levels + 1) (Draft.readBy f x.toJson)
      = (Decoder.readPart (.option Constraints.decoder) source levels f Constraints.toJson
          x.constraints).map fun constraints => { x with constraints } := by
  have hoperators := operators_readBy source f h
  simp only [toJson, List.append_assoc, List.cons_append, List.nil_append, Draft.readBy, decoder,
    Decoder.record]
  rw [Decoder.members_cons "name" rfl (by simp) rfl,
    Decoder.members_cons "label" rfl (by simp) rfl,
    Decoder.members_cons "type" rfl (by simp) x.type.decoder_readBy,
    Decoder.members_part "allowedOperators" rfl (by simp) hoperators rfl,
    Decoder.members_unless "options" rfl (by simp) (options_readBy h) fun hempty => by
      rw [List.isEmpty_iff.1 hempty],
    ← List.append_nil (Json.optional "constraints" _ _)]
  cases hread : Decoder.readPart (.option Constraints.decoder) source levels f Constraints.toJson
      x.constraints with
  | error fault =>
    rw [Decoder.members_part_fault "constraints" rfl hread]
    rfl
  | ok constraints =>
    rw [Decoder.members_part "constraints" rfl (by simp) hread rfl]
    rfl

theorem decoder_eq_ok {x y : Field} (hx : ∀ cs ∈ x.constraints, cs.custom = none)
    (hf : ∀ n, f (.int n) = some (.int n)) (h : Fits levels x.toJson) :
    decoder source levels (Draft.readBy f x.toJson) = .ok y ↔ x.IsReadAs f y := by
  obtain ⟨l, rfl, hmembers⟩ := Json.fits_object.1 h
  have hconstraints (p : Option Constraints) :
      Decoder.readPart (.option Constraints.decoder) source l f Constraints.toJson x.constraints
          = .ok p ↔ Option.Rel (Constraints.IsReadAs f) x.constraints p := by
    apply Decoder.readPart_eq_ok
    · intro cs
      rfl
    · intro cs hcs d
      have hfits : Fits l cs.toJson :=
        hmembers ("constraints", cs.toJson)
          (List.mem_append_right _ (Json.mem_optional.2 ⟨cs, hcs, rfl⟩))
      obtain ⟨k, rfl, -⟩ := Json.fits_object.1 hfits
      exact Constraints.decoder_eq_ok (hx cs hcs) hf
  rw [decoder_readBy h]
  constructor
  · intro hread
    obtain ⟨p, hp, rfl⟩ := Json.exists_ok_of_map hread
    exact ⟨p, (hconstraints p).1 hp, rfl⟩
  · rintro ⟨p, hp, rfl⟩
    rw [(hconstraints p).2 hp]
    rfl

theorem isReadAs_self {x : Field} :
    x.IsReadAs f x ↔ ∀ b ∈ x.bounds, b.readBy? f = some b := by
  have hself : x.IsReadAs f x ↔
      Option.Rel (Constraints.IsReadAs f) x.constraints x.constraints := by
    constructor
    · rintro ⟨constraints, hrel, he⟩
      have hconstraints : x.constraints = constraints := congrArg Field.constraints he
      rw [← hconstraints] at hrel
      exact hrel
    · intro hrel
      exact ⟨x.constraints, hrel, rfl⟩
  rw [hself, bounds]
  cases x.constraints with
  | none => exact iff_of_true .none fun b hb => absurd hb List.not_mem_nil
  | some cs =>
    rw [Option.map_some, Option.getD_some, ← Constraints.isReadAs_self]
    constructor
    · rintro ⟨h⟩
      exact h
    · intro h
      exact .some h

theorem isRead_toJson {x : Field} (h : ∀ cs ∈ x.constraints, cs.IsData) :
    ∀ n ∈ x.toJson.numerals, n.IsRead := by
  intro n hn
  have hops (ops : List Operator) : Json.numeralsOf (ops.map Operator.toJson) = [] :=
    Json.numeralsOf_map (fun _ => rfl) ops
  have hoptions : Json.numeralsOf (x.options.map FieldOption.toJson) = [] :=
    Json.numeralsOf_map (fun _ => rfl) x.options
  have hcs : ∃ cs, x.constraints = some cs ∧ n ∈ cs.toJson.numerals := by
    simp only [toJson, Json.numerals, Json.numeralsOfMembers_append, List.mem_append,
      Json.mem_numerals_optional, hops, Json.numeralsOfMembers] at hn
    split at hn <;>
      simpa [Json.numeralsOfMembers, Json.numerals, hoptions] using hn
  obtain ⟨cs, hcs, hn⟩ := hcs
  exact Constraints.isRead_toJson (h cs hcs) n hn

theorem fits_toJson (x : Field) : Fits (levels + 3) x.toJson := by
  have htext (s : String) : Fits (levels + 2) (.text s) := Nat.zero_le _
  have hops (ops : List Operator) : Fits (levels + 2) (.list (ops.map Operator.toJson)) :=
    Json.fits_list_map fun _ _ => Nat.zero_le _
  have hoptions : Fits (levels + 2) (.list (x.options.map FieldOption.toJson)) := by
    apply Json.fits_list_map
    intro o _
    rw [FieldOption.toJson, Json.fits_object_succ]
    simp only [List.forall_mem_cons, List.not_mem_nil, false_implies, implies_true, and_true]
    exact ⟨Nat.zero_le _, Nat.zero_le _⟩
  have hconstraints : ∀ m ∈ Json.optional "constraints" Constraints.toJson x.constraints,
      Fits (levels + 2) m.2 := Json.fits_optional fun cs => cs.fits_toJson
  rw [toJson, Json.fits_object_succ]
  simp only [List.forall_mem_append]
  refine ⟨⟨⟨?_, Json.fits_optional hops⟩, ?_⟩, hconstraints⟩
  · simp [htext]
  · split
    · simp
    · simp [hoptions]

end Field

namespace Catalog

/-- The constraints of all fields are data. -/
def IsData (c : Catalog) : Prop := ∀ x ∈ c.fields, ∀ cs ∈ x.constraints, cs.IsData

def bounds (c : Catalog) : List Bound := c.fields.flatMap Field.bounds

/-- The same catalog with the bounds that their numerals are read as. -/
def IsReadAs (f : Numeral → Option Numeral) (c d : Catalog) : Prop :=
  List.Forall₂ (Field.IsReadAs f) c.fields d.fields

theorem fields_readBy {xs ys : List Field} (hxs : ∀ x ∈ xs, ∀ cs ∈ x.constraints, cs.IsData)
    (hf : ∀ n, f (.int n) = some (.int n)) (h : ∀ x ∈ xs, Fits levels x.toJson) :
    List.Forall₂ (fun x y => Field.decoder source levels (Draft.readBy f x.toJson) = .ok y) xs ys ↔
      List.Forall₂ (Field.IsReadAs f) xs ys := by
  induction xs generalizing ys with
  | nil => rw [List.forall₂_nil_left_iff, List.forall₂_nil_left_iff]
  | cons x xs ih =>
    rw [List.forall_mem_cons] at hxs h
    simp only [List.forall₂_cons_left_iff, ih hxs.2 h.2,
      Field.decoder_eq_ok (fun cs hcs => (hxs.1 cs hcs).custom) hf h.1]

theorem decoder_eq_ok {c d : Catalog} (hc : c.IsData) (hf : ∀ n, f (.int n) = some (.int n))
    (h : Fits levels c.toJson) :
    decoder source levels (Draft.readBy f c.toJson) = .ok d ↔ c.IsReadAs f d := by
  obtain ⟨l, rfl, hitems⟩ := Json.fits_list.1 h
  have hfields : ∀ x ∈ c.fields, Fits l x.toJson :=
    fun x hx => hitems x.toJson (List.mem_map_of_mem hx)
  have hlist : Decoder.list Field.decoder source (l + 1) (Draft.readBy f c.toJson) = .ok d.fields ↔
      c.IsReadAs f d := by
    rw [toJson, Decoder.list_eq_ok, List.forall₂_map_left_iff]
    exact fields_readBy hc hf hfields
  rw [← hlist, decoder, Decoder.checked]
  cases Decoder.list Field.decoder source (l + 1) (Draft.readBy f c.toJson) with
  | error fault => simp only [reduceCtorEq, bind, Except.bind]
  | ok xs =>
    constructor
    · rintro ⟨⟩
      rfl
    · rintro ⟨⟩
      rfl

theorem isReadAs_self {c : Catalog} :
    c.IsReadAs f c ↔ ∀ b ∈ c.bounds, b.readBy? f = some b := by
  simp only [IsReadAs, List.forall₂_same, Field.isReadAs_self, bounds, List.mem_flatMap]
  constructor
  · rintro h b ⟨x, hx, hb⟩
    exact h x hx b hb
  · intro h x hx b hb
    exact h b ⟨x, hx, hb⟩

theorem isRead_toJson {c : Catalog} (h : c.IsData) : ∀ n ∈ c.toJson.numerals, n.IsRead := by
  intro n hn
  rw [toJson, Json.numerals, Json.mem_numeralsOf] at hn
  obtain ⟨_, hj, hn⟩ := hn
  obtain ⟨x, hx, rfl⟩ := List.mem_map.1 hj
  exact Field.isRead_toJson (h x hx) n hn

theorem fits_toJson (c : Catalog) : Fits (levels + 4) c.toJson :=
  Json.fits_list_map fun x _ => x.fits_toJson

theorem decodeText_eq_ok {c d : Catalog} (h : c.IsData) :
    ∀ s ∈ [c.toJson.render, c.toJson.renderPretty],
      (Json.decodeText decoder s = .ok d ↔ c.IsReadAs Numeral.reread? d) := by
  have hread := isRead_toJson h
  have hfits : Fits Json.nestingLimit c.toJson := c.fits_toJson
  have hdecode : decoder .text Json.nestingLimit (Draft.readBy Numeral.reread? c.toJson) = .ok d ↔
      c.IsReadAs Numeral.reread? d := decoder_eq_ok h (fun _ => rfl) hfits
  intro s hs
  simp only [List.mem_cons, List.not_mem_nil, or_false] at hs
  rcases hs with rfl | rfl
  · rw [Json.decodeText_render hread]
    exact hdecode
  · rw [Json.decodeText_renderPretty hread]
    exact hdecode

end Catalog

/-- A catalog comes back from its JSON as it is. From the texts of that, compact or indented, it
comes back but for its bounds, which are what the reader makes of their literals; so it comes back
as it is if and only if all of them are read to the nearest number. -/
theorem catalog_round_trip_iff (c : Catalog) (hc : c.IsData) :
    Json.decodeValue Catalog.decoder c.toJson = .ok c ∧
      ∀ s ∈ [c.toJson.render, c.toJson.renderPretty],
        (∀ d, Json.decodeText Catalog.decoder s = .ok d ↔ c.IsReadAs Numeral.reread? d) ∧
        (Json.decodeText Catalog.decoder s = .ok c ↔ ∀ b ∈ c.bounds, b.IsReadNearest) := by
  constructor
  · have hself : c.IsReadAs some c := Catalog.isReadAs_self.2 fun b _ => b.ofNumeral?_toNumeral
    rw [Json.decodeValue, ← Draft.readBy_some]
    exact (Catalog.decoder_eq_ok hc (fun _ => rfl) (Draft.depth_readBy some c.toJson).ge).2 hself
  · intro s hs
    have hread (d : Catalog) :
        Json.decodeText Catalog.decoder s = .ok d ↔ c.IsReadAs Numeral.reread? d :=
      Catalog.decodeText_eq_ok hc s hs
    refine ⟨hread, ?_⟩
    rw [hread, Catalog.isReadAs_self]
    simp only [Bound.readBy?_eq_iff]

/-- A field with bounds of a fraction and of minus zero, one with an empty list of operators, and
one that repeats a name. -/
theorem catalog_round_trip_iff_bounds :
    let half : Number := ⟨true, Nat.pow 2 52, 1021, by decide, by decide, by decide, by decide⟩
    let range : Constraints :=
      { Constraints.none with
        min := some ⟨half, false, by decide⟩, max := some ⟨.zero, true, fun _ => rfl⟩ }
    let short : Constraints := { Constraints.none with maxLength := some 3 }
    let c : Catalog :=
      ⟨[⟨"n", "N", .number, none, [], some range⟩, ⟨"s", "S", .select, some [], [], some short⟩,
        ⟨"n", "\"", .select, none, [⟨"a", "A"⟩], some .none⟩]⟩
    c.IsData ∧ Json.decodeText Catalog.decoder c.toJson.render = .ok c := by
  intro half range short c
  have hc : c.IsData := by
    intro x hx cs hcs
    simp only [c, List.mem_cons, List.not_mem_nil, or_false] at hx
    rcases hx with rfl | rfl | rfl <;> cases hcs
    · exact ⟨rfl, by decide, by decide⟩
    · exact ⟨rfl, by decide, by decide⟩
    · exact ⟨rfl, by decide, by decide⟩
  have hnearest : ∀ b ∈ c.bounds, b.IsReadNearest := by decide +kernel
  exact ⟨hc, ((catalog_round_trip_iff c hc).2 _ List.mem_cons_self).2.2 hnearest⟩

/-- The bound 8999999999999999 is written as it is and read as 8999999999999998. -/
theorem bound_not_read_back :
    let written : Number :=
      ⟨false, 8999999999999999, 1074, by decide, by decide, by decide, by decide⟩
    let read : Number :=
      ⟨false, 8999999999999998, 1074, by decide, by decide, by decide, by decide⟩
    let range (x : Number) : Constraints :=
      { Constraints.none with min := some ⟨x, false, fun h => absurd h Bool.false_ne_true⟩ }
    let c (x : Number) : Catalog := ⟨[⟨"n", "N", .number, none, [], some (range x)⟩]⟩
    (c written).IsData ∧ Json.decodeText Catalog.decoder (c written).toJson.render = .ok (c read) ∧
      (c written).toJson.render = "[\x7b\"name\":\"n\",\"label\":\"N\",\"type\":\"number\","
        ++ "\"constraints\":\x7b\"min\":8999999999999999.0\x7d\x7d]" ∧
      c read ≠ c written := by
  intro written read range c
  have hc : (c written).IsData := by
    intro x hx cs hcs
    rw [List.mem_singleton.1 hx] at hcs
    cases hcs
    exact ⟨rfl, by decide, by decide⟩
  have hmin : (⟨written, false, by decide⟩ : Bound).readBy? Numeral.reread?
      = some ⟨read, false, by decide⟩ := by decide +kernel
  have hread : (c written).IsReadAs Numeral.reread? (c read) :=
    .cons ⟨_, .some ⟨_, _, .some hmin, .none, rfl⟩, rfl⟩ .nil
  refine ⟨hc, (Catalog.decodeText_eq_ok hc _ List.mem_cons_self).2 hread, by decide +kernel, ?_⟩
  intro he
  have hvalues : [read] = [written] := congrArg (fun d => d.bounds.map Bound.value) he
  exact absurd hvalues (by decide)

end Criteria
