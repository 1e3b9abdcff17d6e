import Criteria.Proofs.Date.Timestamp
import Criteria.Proofs.Tree.Reread

namespace Criteria

open Json (Decoder Draft Fits Source)

variable {source : Source} {levels : Nat} {f : Numeral → Option Numeral}

theorem Json.Decoder.list_texts (f : Numeral → Option Numeral) (source : Source) (levels : Nat)
    (tags : List String) :
    Decoder.list .string source (levels + 1) (Draft.readBy f (.list (tags.map .text)))
      = .ok tags := by
  rw [list_eq_ok, List.forall₂_map_left_iff, List.forall₂_same]
  intro s _
  rfl

namespace SavedQuery

/-- The points in time of a query are ones that there are. -/
structure IsTimed (q : SavedQuery) : Prop where
  createdAt : q.createdAt.clock.IsTime
  updatedAt : q.updatedAt.clock.IsTime

theorem time_text (f : Numeral → Option Numeral) (source : Source) (levels : Nat) {t : Timestamp}
    (h : t.clock.IsTime) : time source levels (Draft.readBy f (.text t.text)) = .ok t := by
  have hread := Timestamp.ofText?_text h
  simp only [time, Decoder.checked, Draft.readBy, Decoder.string, bind, Except.bind, hread]

theorem isTime_of_time {d : Draft} {t : Timestamp} (h : time source levels d = .ok t) :
    t.clock.IsTime := by
  obtain ⟨s, -, h⟩ := Json.exists_ok_of_bind h
  split at h
  · next u hread =>
    cases h
    exact Timestamp.isTime_of_ofText? hread
  · cases h

structure Parts.IsTimed (p : Parts) : Prop where
  createdAt : ∀ t ∈ p.createdAt, t.clock.IsTime
  updatedAt : ∀ t ∈ p.updatedAt, t.clock.IsTime

theorem isTimed_of_decoder {d : Draft} {q : SavedQuery} (h : decoder source levels d = .ok q) :
    q.IsTimed := by
  have hstart : Parts.IsTimed {} := ⟨fun t ht => (by cases ht), fun t ht => (by cases ht)⟩
  have hread := Decoder.record_invariant hstart ?slots h
  case slots =>
    intro levels s hs d p p' hp hdecode
    simp only [List.mem_cons, List.not_mem_nil, or_false] at hs
    rcases hs with rfl | rfl | rfl | rfl | rfl | rfl
    all_goals obtain ⟨a, ha, rfl⟩ := Json.exists_ok_of_map hdecode
    · exact ⟨hp.createdAt, hp.updatedAt⟩
    · exact ⟨hp.createdAt, hp.updatedAt⟩
    · exact ⟨hp.createdAt, hp.updatedAt⟩
    · exact ⟨hp.createdAt, hp.updatedAt⟩
    · refine ⟨fun t ht => ?_, hp.updatedAt⟩
      cases ht
      exact isTime_of_time ha
    · refine ⟨hp.createdAt, fun t ht => ?_⟩
      cases ht
      exact isTime_of_time ha
  obtain ⟨p, hp, hfinish⟩ := hread
  obtain ⟨name, -, hfinish⟩ := Option.bind_eq_some_iff.1 hfinish
  obtain ⟨tree, -, hfinish⟩ := Option.bind_eq_some_iff.1 hfinish
  obtain ⟨createdAt, hcreated, hfinish⟩ := Option.bind_eq_some_iff.1 hfinish
  obtain ⟨updatedAt, hupdated, hfinish⟩ := Option.bind_eq_some_iff.1 hfinish
  cases hfinish
  exact ⟨hp.createdAt createdAt hcreated, hp.updatedAt updatedAt hupdated⟩

theorem decoder_readBy {q : SavedQuery} (h : q.IsTimed) :
    decoder source (levels + 2) (Draft.readBy f q.toJson)
      = (Group.decoder source (levels + 1) (Draft.readBy f q.tree.toJson)).map
        fun tree => { q with tree } := by
  have htags := Decoder.list_texts f source levels q.tags
  have hcreated := time_text f source (levels + 1) h.createdAt
  have hupdated := time_text f source (levels + 1) h.updatedAt
  simp only [toJson, List.cons_append, List.append_assoc, Draft.readBy, decoder, Decoder.record]
  rw [Decoder.members_cons "name" rfl (by simp) rfl,
    Decoder.members_optional "description" rfl (by simp) (fun s => rfl) rfl,
    Decoder.members_unless "tags" rfl (by simp) (fun _ => htags) fun hempty => by
      rw [List.isEmpty_iff.1 hempty]]
  cases htree : Group.decoder source (levels + 1) (Draft.readBy f q.tree.toJson) with
  | error fault =>
    rw [Decoder.members_fault "tree" rfl htree]
    rfl
  | ok t =>
    rw [Decoder.members_cons "tree" rfl (by simp) htree,
      Decoder.members_cons "createdAt" rfl (by simp) hcreated,
      Decoder.members_cons "updatedAt" rfl (by simp) hupdated]
    rfl

theorem fits_toJson {q : SavedQuery} :
    Fits (levels + 2) q.toJson ↔ Fits (levels + 1) q.tree.toJson := by
  obtain ⟨name, description, tags, tree, createdAt, updatedAt⟩ := q
  have htext : ∀ s, Fits (levels + 1) (.text s) := fun s => Nat.zero_le _
  have htags : Fits (levels + 1) (.list (tags.map .text)) :=
    Json.fits_list_map fun _ _ => Nat.zero_le _
  rw [toJson, Json.fits_object_succ]
  by_cases htag : tags.isEmpty <;> cases description <;>
    simp [Json.optional, htext, htag, htags]

theorem numerals_toJson {q : SavedQuery} {n : Numeral} :
    n ∈ q.toJson.numerals ↔ n ∈ q.tree.toJson.numerals := by
  obtain ⟨name, description, tags, tree, createdAt, updatedAt⟩ := q
  have htags : Json.numeralsOf (tags.map .text) = [] := Json.numeralsOf_map (fun _ => rfl) tags
  by_cases htag : tags.isEmpty <;> cases description <;>
    simp [toJson, Json.optional, Json.numerals, Json.numeralsOfMembers, htag, htags]

theorem isRead_toJson (q : SavedQuery) : ∀ n ∈ q.toJson.numerals, n.IsRead :=
  fun n hn => q.tree.isRead_toJson n (numerals_toJson.1 hn)

theorem ofText_renderPretty {q : SavedQuery} (h : q.IsTimed) :
    ofText q.toJson.renderPretty
      = (Group.decoder .text 126 (Draft.readBy Numeral.reread? q.tree.toJson)).map
        fun tree => { q with tree } := by
  rw [ofText, Json.decodeText_renderPretty q.isRead_toJson]
  exact decoder_readBy h

theorem ofText_renderPretty_iff {q : SavedQuery} (h : q.IsTimed) :
    ofText q.toJson.renderPretty = .ok q ↔
      Fits Json.nestingLimit q.toJson ∧ ∀ x ∈ q.tree.numbers, x.IsReadNearest := by
  have hfits : Fits Json.nestingLimit q.toJson ↔ Fits 126 q.tree.toJson := fits_toJson
  have htree : Group.decoder .text 126 _ = .ok q.tree ↔ _ := Group.decoder_reread_iff
  rw [ofText_renderPretty h, hfits, ← htree]
  constructor
  · intro hread
    obtain ⟨t, ht, he⟩ := Json.exists_ok_of_map hread
    have htree : t = q.tree := congrArg SavedQuery.tree he
    rwa [htree] at ht
  · intro hread
    rw [hread]
    rfl

theorem isTimed_of_ofText {s : String} {q : SavedQuery} (h : ofText s = .ok q) : q.IsTimed := by
  obtain ⟨p, hp, h⟩ := Json.exists_ok_of_bind h
  split at h
  · cases h
  · cases h
    exact isTimed_of_decoder hp

end SavedQuery

end Criteria
