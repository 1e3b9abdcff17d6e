import Criteria.Proofs.Json.Decode

namespace Criteria.Json.Decoder

/-- What is decoded straight from text is decoded alike once the text has been read in full. -/
def IsSteady {α : Type} (decode : Decoder α) : Prop :=
  ∀ levels d a, decode .text levels d = .ok a → decode .buffered levels d = .ok a

theorem refuse_ne_ok {α : Type} {d : Draft} {a : α} : d.refuse ≠ .ok a := by
  intro h
  rw [Draft.refuse.eq_def] at h
  split at h <;> cases h

theorem isSteady_string : string.IsSteady := by
  intro levels d s h
  rw [string.eq_def] at h
  split at h
  · exact h
  · exact absurd h refuse_ne_ok

theorem isSteady_bool : bool.IsSteady := by
  intro levels d b h
  rw [bool.eq_def] at h
  split at h
  · exact h
  · exact absurd h refuse_ne_ok

section kinds

variable {α β : Type} {decode : Decoder α}

theorem IsSteady.option (h : decode.IsSteady) : decode.option.IsSteady := by
  intro levels d a hread
  rw [Decoder.option.eq_def] at hread ⊢
  split at hread
  · exact hread
  · cases hread
  · obtain ⟨b, hb, rfl⟩ := exists_ok_of_map hread
    exact congrArg (Except.map some) (h _ _ b hb)

theorem IsSteady.checked (h : decode.IsSteady) (f : α → Option β) :
    (decode.checked f).IsSteady := by
  intro levels d b hread
  obtain ⟨a, ha, hread⟩ := exists_ok_of_bind hread
  have ha' := h levels d a ha
  rw [Decoder.checked, ha']
  exact hread

theorem IsSteady.list (h : decode.IsSteady) : decode.list.IsSteady := by
  intro levels d as hread
  rw [Decoder.list.eq_def] at hread ⊢
  split at hread
  · cases hread
  · next levels ds ending =>
    obtain ⟨bs, hbs, hread⟩ := exists_ok_of_bind hread
    have hbs' : items (decode .buffered levels) ds = .ok bs :=
      items_eq_ok.2 ((items_eq_ok.1 hbs).imp fun d b hb => h levels d b hb)
    simp only [hbs']
    exact hread
  · exact absurd hread refuse_ne_ok

theorem nothing_text {d : Draft} {u : Unit} (h : nothing .text d = .ok u) : d = .null := by
  rw [nothing.eq_def] at h
  split at h
  · rfl
  · next hsource => cases hsource
  · exact absurd h refuse_ne_ok

theorem closed_eq_ok {ending : Option Fault} {u : Unit} (h : Draft.closed ending = .ok u) :
    ending = none := by
  cases ending with
  | none => rfl
  | some fault => cases h

theorem isSteady_name (table : List (String × α)) : (name table).IsSteady := by
  intro levels d a hread
  rw [name.eq_def] at hread
  split at hread
  case h_1 s => exact hread
  case h_7 n key d ms ending _ =>
    -- A name as the key of an object: nothing else may stand in it.
    obtain ⟨k, hk, hread⟩ := exists_ok_of_bind hread
    obtain ⟨b, hb, hread⟩ := exists_ok_of_bind hread
    obtain ⟨u, hu, hread⟩ := exists_ok_of_bind hread
    split at hread
    · cases hread
    · next hempty =>
      obtain ⟨v, hv, hread⟩ := exists_ok_of_bind hread
      cases hread
      have hms : ms = [] := by simpa using hempty
      rw [nothing_text hu, closed_eq_ok hv, hms]
      simp only [name, hk, hb, bind, Except.bind]
      rfl
  case h_9 levels _ _ _ _ _ hzero hsucc =>
    -- This is not reached from text, where all objects have been dealt with.
    rcases Nat.eq_zero_or_eq_succ_pred levels with hlevels | hlevels
    · exact (hzero rfl hlevels).elim
    · exact (hsucc _ rfl hlevels).elim
  case h_10 => exact absurd hread refuse_ne_ok
  all_goals cases hread

end kinds

section records

variable {σ : Type}

/-- What a field takes straight from text it takes alike once the text has been read in full. -/
def Slot.IsSteady (s : Slot σ) : Prop :=
  ∀ levels d p q, s.decode .text levels d p = .ok q → s.decode .buffered levels d p = .ok q

theorem IsSteady.slot {α : Type} {decode : Decoder α} (h : decode.IsSteady) (name : String)
    (put : α → σ → σ) : (Slot.of name decode put).IsSteady := by
  intro levels d p q hread
  obtain ⟨a, ha, rfl⟩ := exists_ok_of_map hread
  exact congrArg (Except.map (put · p)) (h levels d a ha)

variable {slots : List (Slot σ)}

theorem members_steady (hslots : ∀ s ∈ slots, s.IsSteady) {levels : Nat}
    {ms : List (Except Fault String × Draft)} {seen : List String} {p q : σ}
    (h : members slots .text levels ms seen p = .ok q) :
    members slots .buffered levels ms seen p = .ok q := by
  induction ms generalizing seen p with
  | nil => exact h
  | cons m ms ih =>
    obtain ⟨key, d⟩ := m
    obtain ⟨name, hname, h⟩ := exists_ok_of_bind h
    simp only [members, hname, bind, Except.bind]
    dsimp only at h
    split at h
    · obtain ⟨u, hu, h⟩ := exists_ok_of_bind h
      simp only [hu]
      exact ih h
    · next s hfind =>
      split at h
      · cases h
      · next hseen =>
        obtain ⟨p', hp', h⟩ := exists_ok_of_bind h
        have hsteady := hslots s (List.mem_of_find?_eq_some hfind) levels d p p' hp'
        simp only [hseen, hsteady]
        exact ih h

theorem positions_steady (hslots : ∀ s ∈ slots, s.IsSteady) {levels : Nat} {ending : Option Fault}
    {ds : List Draft} {p q : σ} (h : positions .text levels ending slots ds p = .ok q) :
    positions .buffered levels ending slots ds p = .ok q := by
  induction ds generalizing slots p with
  | nil =>
    rw [positions] at h ⊢
    exact h
  | cons d ds ih =>
    cases slots with
    | nil => cases h
    | cons s slots =>
      rw [List.forall_mem_cons] at hslots
      obtain ⟨p', hp', h⟩ := exists_ok_of_bind h
      simp only [positions, hslots.1 levels d p p' hp', bind, Except.bind]
      exact ih hslots.2 h

theorem isSteady_record {α : Type} (hslots : ∀ s ∈ slots, s.IsSteady) (start : σ)
    (finish : σ → Option α) : (record slots start finish).IsSteady := by
  intro levels d a h
  rw [record.eq_def] at h
  split at h
  · cases h
  · cases h
  · obtain ⟨p, hp, h⟩ := exists_ok_of_bind h
    simp only [record, members_steady hslots hp]
    exact h
  · obtain ⟨p, hp, h⟩ := exists_ok_of_bind h
    simp only [record, positions_steady hslots hp]
    exact h
  · exact absurd h refuse_ne_ok

end records

section tagged

variable {α : Type}

theorem tag_steady {kinds : List (String × α)} {d : Draft} {a : α} (h : tag kinds .text d = .ok a) :
    tag kinds .buffered d = .ok a := by
  rw [tag.eq_def] at h
  split at h
  · exact h
  · next hsource => cases hsource
  · next hsource => cases hsource
  · exact absurd h refuse_ne_ok

theorem tagMember_steady {key : String} {kinds : List (String × α)} {levels : Nat}
    {ms : List (Except Fault String × Draft)} {found : Option α}
    {result : Option α × List (Except Fault String × Draft)}
    (h : tagMember key kinds .text levels ms found = .ok result) :
    tagMember key kinds .buffered levels ms found = .ok result := by
  induction ms generalizing found result with
  | nil => exact h
  | cons m ms ih =>
    obtain ⟨k, d⟩ := m
    obtain ⟨name, hname, h⟩ := exists_ok_of_bind h
    simp only [tagMember, hname, bind, Except.bind]
    split at h
    · next hkey =>
      rw [if_pos hkey]
      split at h
      · cases h
      · next hfound =>
        obtain ⟨a, ha, h⟩ := exists_ok_of_bind h
        simp only [hfound, tag_steady ha]
        exact ih h
    · next hkey =>
      rw [if_neg hkey]
      obtain ⟨j, hj, h⟩ := exists_ok_of_bind h
      obtain ⟨rest, hrest, h⟩ := exists_ok_of_bind h
      simp only [hj, ih hrest]
      exact h

/-- Once the kind is known it does not matter any more where the value came from. -/
theorem isSteady_tagged (key : String) (kinds : List (String × Decoder α)) :
    (tagged key kinds).IsSteady := by
  intro levels d a h
  rw [tagged.eq_def] at h
  split at h
  · cases h
  · cases h
  · obtain ⟨found, hfound, h⟩ := exists_ok_of_bind h
    simp only [tagged, tagMember_steady hfound]
    exact h
  · split at h
    · obtain ⟨u, -, h⟩ := exists_ok_of_bind h
      cases h
    · obtain ⟨decode, hdecode, h⟩ := exists_ok_of_bind h
      simp only [tagged, tag_steady hdecode]
      exact h
  · exact absurd h refuse_ne_ok

end tagged

end Criteria.Json.Decoder
