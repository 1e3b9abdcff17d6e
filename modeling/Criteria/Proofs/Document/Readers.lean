import Criteria.Proofs.Document.Reopen
import Criteria.Proofs.Json.Source
import Criteria.Storage.Disk

namespace Criteria

open Json (Decoder Draft)

theorem Node.isSteady_decoder : Node.decoder.IsSteady := by
  intro levels d n h
  rcases levels with _ | _ | levels
  · exact Decoder.isSteady_tagged "kind" _ 0 d n h
  · exact Decoder.isSteady_tagged "kind" _ 1 d n h
  · exact Decoder.isSteady_tagged "kind" _ (levels + 2) d n h

theorem Group.isSteady_decoder : Group.decoder.IsSteady := by
  apply Decoder.isSteady_record
  have hcombinator : Combinator.decoder.IsSteady := Decoder.isSteady_name Combinator.table
  simp only [slots, List.forall_mem_cons, List.not_mem_nil, false_implies, implies_true, and_true]
  exact ⟨Decoder.isSteady_string.slot _ _, hcombinator.slot _ _,
    Node.isSteady_decoder.list.slot _ _, Decoder.isSteady_bool.slot _ _,
    hcombinator.option.slot _ _⟩

theorem SavedQuery.isSteady_decoder : SavedQuery.decoder.IsSteady := by
  apply Decoder.isSteady_record
  have htime : SavedQuery.time.IsSteady := Decoder.isSteady_string.checked Timestamp.ofText?
  simp only [List.forall_mem_cons, List.not_mem_nil, false_implies, implies_true, and_true]
  exact ⟨Decoder.isSteady_string.slot _ _, Decoder.isSteady_string.option.slot _ _,
    Decoder.isSteady_string.list.slot _ _, Group.isSteady_decoder.slot _ _, htime.slot _ _,
    htime.slot _ _⟩

theorem Json.Draft.Whole.read_eq_ok {α : Type} {w : Whole} {reader : Draft → Except Fault α}
    {a : α} : w.read reader = .ok a ↔ reader w.draft = .ok a ∧ w.trailing = false := by
  rw [read]
  cases reader w.draft with
  | error fault => simp only [reduceCtorEq, false_and, bind, Except.bind]
  | ok b =>
    cases w.trailing with
    | true => simp only [reduceCtorEq, and_false, bind, Except.bind, if_true]
    | false => exact (and_iff_left rfl).symm

variable {text : String} {q : SavedQuery}

/-- The text of a saved query is read as a tree if and only if all of it can be read, and then as
the tree of the query. -/
theorem Group.ofText_savedQuery_iff (h : SavedQuery.ofText text = .ok q) (t : Tree) :
    Group.ofText text = .ok t ↔ t = q.tree ∧ ∃ j, Json.parse text = .ok j := by
  rw [SavedQuery.ofText, Json.decodeText, Draft.Whole.read_eq_ok] at h
  obtain ⟨hq, htrailing⟩ := h
  have hbuffered := SavedQuery.isSteady_decoder _ _ _ hq
  simp only [Group.ofText, Json.decodeText, Json.parse, Draft.Whole.read_eq_ok, htrailing, and_true,
    storedDecoder, bind, Except.bind, hbuffered]
  cases (Draft.ofText text).draft.toJson Json.nestingLimit with
  | error fault => simp only [reduceCtorEq, exists_false, and_false]
  | ok j =>
    constructor
    · rintro ⟨⟩
      exact ⟨rfl, j, rfl⟩
    · rintro ⟨rfl, -⟩
      rfl

namespace Document

variable {path : Path} {catalog : Catalog} {options : Options} {d : Document}

theorem ofText_cases (h : ofText path text catalog options = .ok d) :
    (∃ q, SavedQuery.ofText text = .ok q ∧ d.saved = some q ∧ d.tree = q.tree) ∨
      ∃ fault, SavedQuery.ofText text = .error fault ∧ d.saved = none ∧
        Group.ofText text = .ok d.tree := by
  cases hq : SavedQuery.ofText text with
  | ok q =>
    rw [ofText_saved hq] at h
    cases h
    exact .inl ⟨q, rfl, rfl, rfl⟩
  | error fault =>
    rw [ofText_bare hq] at h
    obtain ⟨t, ht, rfl⟩ := Json.exists_ok_of_map h
    right
    refine ⟨fault, rfl, rfl, ?_⟩
    cases hread : Group.ofText text with
    | error fault' =>
      rw [hread] at ht
      cases ht
    | ok u =>
      rw [hread] at ht
      cases ht
      rfl

theorem exists_of_tree {t : Tree} (h : Group.ofText text = .ok t) (path : Path) (catalog : Catalog)
    (options : Options) : ∃ d, ofText path text catalog options = .ok d ∧ d.tree = t := by
  cases hq : SavedQuery.ofText text with
  | ok q =>
    obtain ⟨rfl, -⟩ := (Group.ofText_savedQuery_iff hq t).1 h
    exact ⟨_, ofText_saved hq, rfl⟩
  | error fault =>
    refine ⟨{ create t catalog options with path := some path }, ?_, rfl⟩
    rw [ofText_bare hq, h]
    rfl

end Document

/-- A file that is read as a tree is opened as a document with that tree. A document that was opened
has a saved query just if the text is one, and then with its own tree; the file is read as the same
tree, unless it holds a saved query and a value in it cannot be read, which the document passes over
but the reader of trees does not. -/
theorem readers_agree_iff {σ : Type} (s : Storage (StateM σ)) (before : σ) (path : Path)
    (text : String) (hread : ((s.read path).run before).1 = .ok text) (catalog : Catalog)
    (options : Document.Options) :
    let loaded := ((Document.load s path catalog options).run before).1
    (∀ t, Group.ofText text = .ok t → ∃ d, loaded = .ok d ∧ d.tree = t) ∧
      ∀ d, loaded = .ok d →
        (∀ q, d.saved = some q ↔ SavedQuery.ofText text = .ok q) ∧
        (∀ q ∈ d.saved, q.tree = d.tree) ∧
        (Group.ofText text = .ok d.tree ↔
          (d.saved.isSome = true → ∃ j, Json.parse text = .ok j)) := by
  intro loaded
  have hloaded : loaded = Document.ofText path text catalog options :=
    Document.load_of_read hread
  rw [hloaded]
  constructor
  · intro t ht
    exact Document.exists_of_tree ht path catalog options
  · intro d hd
    rcases Document.ofText_cases hd with ⟨q, hq, hsaved, htree⟩ | ⟨fault, hq, hsaved, htree⟩
    · rw [hsaved, hq, htree, Group.ofText_savedQuery_iff hq]
      refine ⟨fun p => ?_, ?_, ?_⟩
      · rw [Option.some.injEq, Except.ok.injEq]
      · rintro p ⟨⟩
        rfl
      · constructor
        · intro h _
          exact h.2
        · intro h
          exact ⟨rfl, h rfl⟩
    · rw [hsaved, hq, htree]
      refine ⟨fun p => by simp only [reduceCtorEq], ?_, iff_of_true rfl fun h => ?_⟩
      · rintro p ⟨⟩
      · cases h

/-- A saved query with a member that no reader knows. -/
theorem readers_agree_iff_query :
    let text := "\x7b\"name\":\"q\",\"tree\":\x7b\"id\":\"r\",\"children\":[]\x7d,\"weight\":1,"
      ++ "\"createdAt\":\"2024-01-01T00:00:00Z\",\"updatedAt\":\"2024-01-01T00:00:00Z\"\x7d"
    let disk : Disk := ⟨[(["q.json"], text)], [], []⟩
    let t : Tree := ⟨⟨"r", .and, false, none⟩, []⟩
    ((Disk.storage.read ⟨"/q.json"⟩).run disk).1 = .ok text ∧ Group.ofText text = .ok t ∧
      ∃ d, ((Document.load Disk.storage ⟨"/q.json"⟩ ⟨[]⟩ {}).run disk).1 = .ok d ∧ d.tree = t ∧
        d.saved.map (·.name) = some "q" := by
  intro text disk t
  have hread : ((Disk.storage.read ⟨"/q.json"⟩).run disk).1 = .ok text := by rfl
  have htree : Group.ofText text = .ok t := by decide +kernel
  have hname : (SavedQuery.ofText text).toOption.map (·.name) = some "q" := by decide +kernel
  obtain ⟨hopens, hholds⟩ := readers_agree_iff Disk.storage disk ⟨"/q.json"⟩ text hread ⟨[]⟩ {}
  obtain ⟨d, hd, hdtree⟩ := hopens t htree
  refine ⟨hread, htree, d, hd, hdtree, ?_⟩
  cases hq : SavedQuery.ofText text with
  | error fault =>
    rw [hq] at hname
    cases hname
  | ok q =>
    rw [hq] at hname
    rw [((hholds d hd).1 q).2 hq]
    exact hname

/-- A saved query with a member that is a number out of range is opened, since no one asks for that
member, and yet is not read as a tree. -/
theorem unread_member_parts_readers :
    let text := "\x7b\"name\":\"q\",\"tree\":\x7b\"id\":\"r\",\"children\":[]\x7d,\"weight\":1e400,"
      ++ "\"createdAt\":\"2024-01-01T00:00:00Z\",\"updatedAt\":\"2024-01-01T00:00:00Z\"\x7d"
    let disk : Disk := ⟨[(["q.json"], text)], [], []⟩
    let t : Tree := ⟨⟨"r", .and, false, none⟩, []⟩
    (∃ d, ((Document.load Disk.storage ⟨"/q.json"⟩ ⟨[]⟩ {}).run disk).1 = .ok d ∧ d.tree = t) ∧
      Group.ofText text = .error .malformed := by
  intro text disk t
  have hread : ((Disk.storage.read ⟨"/q.json"⟩).run disk).1 = .ok text := by rfl
  have htree : (SavedQuery.ofText text).toOption.map (·.tree) = some t := by decide +kernel
  refine ⟨?_, by decide +kernel⟩
  rw [Document.load_of_read hread]
  cases hq : SavedQuery.ofText text with
  | error fault =>
    rw [hq] at htree
    cases htree
  | ok q =>
    rw [hq] at htree
    exact ⟨_, Document.ofText_saved hq, Option.some.inj htree⟩

end Criteria
