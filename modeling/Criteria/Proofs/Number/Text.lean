import Criteria.Number.Text

namespace Criteria

namespace Decimal

theorem digitsOf_lt {fuel n : Nat} {later : List Nat} (hl : ∀ d ∈ later, d < 10) :
    ∀ d ∈ digitsOf fuel n later, d < 10 := by
  induction fuel generalizing n later with
  | zero => exact hl
  | succ fuel ih =>
    rw [digitsOf]
    split
    · next hn =>
      intro d hd
      rcases List.mem_cons.1 hd with rfl | hd
      · exact hn
      · exact hl d hd
    · apply ih
      intro d hd
      rcases List.mem_cons.1 hd with rfl | hd
      · exact Nat.mod_lt n (by decide)
      · exact hl d hd

theorem digitsOf_ne_nil {fuel n : Nat} {later : List Nat} (hl : later ≠ []) :
    digitsOf fuel n later ≠ [] := by
  induction fuel generalizing n later with
  | zero => exact hl
  | succ fuel ih =>
    rw [digitsOf]
    split
    · exact List.cons_ne_nil _ _
    · exact ih (List.cons_ne_nil _ _)

theorem digits_ne_nil (n : Nat) : digits n ≠ [] := by
  rw [digits, digitsOf]
  split
  · exact List.cons_ne_nil _ _
  · exact digitsOf_ne_nil (List.cons_ne_nil _ _)

/-- Whether a character can stand in a number without sign and exponent. -/
def isPlain (c : Char) : Bool := c.isDigit || c = '.'

theorem isPlain_digitChar {d : Nat} (h : d < 10) : isPlain (digitChar d) = true := by
  decide +revert

theorem isUpper_toUpper {c : Char} (h : isPlain c = true) : c.toUpper.isUpper = false := by
  simp only [isPlain, Bool.or_eq_true, decide_eq_true_eq] at h
  rcases h with h | rfl
  · simp only [Char.isDigit, Bool.and_eq_true, decide_eq_true_eq] at h
    have hdigit : c.val.toNat ≤ 57 := h.2
    have hlower : ¬ ('a'.val ≤ c.val ∧ c.val ≤ 'z'.val) := by
      rintro ⟨ha, -⟩
      have hlow : 97 ≤ c.val.toNat := ha
      omega
    have hsame : c.toUpper = c := dif_neg hlower
    rw [hsame]
    refine decide_eq_false ?_
    rintro ⟨ha, -⟩
    have hlow : 65 ≤ c.val.toNat := ha
    omega
  · decide

theorem isPlain_natChars (n : Nat) : ∀ c ∈ natChars n, isPlain c = true := by
  intro c hc
  obtain ⟨d, hd, rfl⟩ := List.mem_map.1 hc
  have hlt : d < 10 := digitsOf_lt (fun _ h => absurd h List.not_mem_nil) d hd
  exact isPlain_digitChar hlt

theorem natChars_ne_nil (n : Nat) : natChars n ≠ [] := by
  simp only [natChars, chars, ne_eq, List.map_eq_nil_iff]
  exact digits_ne_nil n

theorem isPlain_zeros (k : Nat) : ∀ c ∈ List.replicate k '0', isPlain c = true := by
  intro c hc
  rw [List.eq_of_mem_replicate hc]
  decide

theorem positional_ne_nil {ds : List Char} (hne : ds ≠ []) (whole : Int) :
    positional false ds whole ≠ [] := by
  rw [positional]
  split
  · simp
  · dsimp only
    split
    · simp [hne]
    · simp

theorem isPlain_positional {ds : List Char} (h : ∀ c ∈ ds, isPlain c = true) (whole : Int) :
    ∀ c ∈ positional false ds whole, isPlain c = true := by
  intro c hc
  rw [positional] at hc
  split at hc
  · simp only [List.cons_append, List.nil_append, List.mem_cons, List.mem_append] at hc
    rcases hc with rfl | rfl | hc | hc
    · decide
    · decide
    · exact isPlain_zeros _ c hc
    · exact h c hc
  · dsimp only at hc
    split at hc
    · simp only [Bool.false_eq_true, if_false, List.append_nil, List.mem_append] at hc
      rcases hc with hc | hc
      · exact h c hc
      · exact isPlain_zeros _ c hc
    · simp only [List.mem_append, List.mem_cons] at hc
      rcases hc with hc | rfl | hc
      · exact h c (List.mem_of_mem_take hc)
      · decide
      · exact h c (List.mem_of_mem_drop hc)

end Decimal

/-- A number without exponent as characters: digits and points, perhaps after a minus. -/
def IsNumeral (cs : List Char) : Prop :=
  ∃ body, (cs = body ∨ cs = '-' :: body) ∧ body ≠ [] ∧ ∀ c ∈ body, Decimal.isPlain c = true

theorem Decimal.isNumeral_intChars (n : Int) : IsNumeral (intChars n) := by
  cases n with
  | ofNat n => exact ⟨natChars n, .inl rfl, natChars_ne_nil n, isPlain_natChars n⟩
  | negSucc n => exact ⟨natChars (n + 1), .inr rfl, natChars_ne_nil _, isPlain_natChars _⟩

theorem Number.isNumeral_layOut (x : Number) : IsNumeral (x.layOut .plain) := by
  have hbody : (x.shortest Layout.plain.tie).layOut .plain = Decimal.positional false
      (Decimal.natChars (x.shortest Layout.plain.tie).coefficient)
      ((x.shortest Layout.plain.tie).leading + 1) := rfl
  refine ⟨_, ?_, hbody ▸ Decimal.positional_ne_nil (Decimal.natChars_ne_nil _) _,
    hbody ▸ Decimal.isPlain_positional (Decimal.isPlain_natChars _) _⟩
  rw [layOut]
  split
  · exact .inr rfl
  · exact .inl rfl

theorem Number.isNumeral_text (x : Number) : IsNumeral x.text.toList := by
  rw [text, String.toList_ofList]
  split
  · exact Decimal.isNumeral_intChars _
  · exact x.isNumeral_layOut

end Criteria
