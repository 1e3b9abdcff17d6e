import Criteria.Proofs.Document.Run
import Criteria.Proofs.SavedQuery.Json
import Criteria.Proofs.Storage

namespace Criteria

/-- The same query but for its tree and the time at which it was brought up to date. -/
structure SavedQuery.IsVersionOf (q p : SavedQuery) : Prop where
  name : q.name = p.name
  description : q.description = p.description
  tags : q.tags = p.tags
  createdAt : q.createdAt = p.createdAt

namespace Document

open Json (Draft)

variable {d e : Document} {path : Path} {catalog : Catalog} {options : Options}

theorem saved_apply (d : Document) (today : Date) (m : Mutation) :
    (d.apply today m).2.saved = d.saved := by
  obtain ⟨ids, h | ⟨history, h⟩⟩ := d.apply_snd today m
  · rw [h]
  · rw [h]
    rfl

theorem path_apply (d : Document) (today : Date) (m : Mutation) :
    (d.apply today m).2.path = d.path := by
  obtain ⟨ids, h | ⟨history, h⟩⟩ := d.apply_snd today m
  · rw [h]
  · rw [h]
    rfl

theorem saved_perform (d : Document) (a : Action) :
    (d.perform a).saved = d.saved ∨
      ∃ now, (d.perform a).saved = d.saved.map (·.updateTree now d.tree) := by
  cases a with
  | apply today m => exact .inl (d.saved_apply today m)
  | undo =>
    left
    rw [perform, undo?]
    cases d.history.undo? <;> rfl
  | redo =>
    left
    rw [perform, redo?]
    cases d.history.redo? <;> rfl
  | mergeOptions field page =>
    left
    rw [perform, mergeOptions?]
    cases d.catalog.mergeOptions? field page <;> rfl
  | save s now =>
    rw [perform, save]
    split
    · exact .inl rfl
    · next target _ =>
      obtain ⟨isDirty, h⟩ := d.writeTo_eq s now target
      exact .inr ⟨now, by rw [h]; rfl⟩
  | saveAs s now target =>
    obtain ⟨isDirty, h⟩ := d.writeTo_eq s now target
    right
    refine ⟨now, ?_⟩
    simp only [perform, saveAs, Id.run, bind, pure] at h ⊢
    cases hw : writeTo s now target d with
    | mk result d' =>
      rw [hw] at h
      cases h
      cases result <;> rfl
  | openBatch | closeBatch | reset | setCatalog | setLintOptions => exact .inl rfl

/-- Whether a document still holds the saved query that another holds, if any. -/
def KeepsQuery (d e : Document) : Prop := Option.Rel SavedQuery.IsVersionOf e.saved d.saved

theorem keepsQuery_refl (d : Document) : d.KeepsQuery d := by
  rw [KeepsQuery]
  cases d.saved with
  | none => exact .none
  | some q => exact .some ⟨rfl, rfl, rfl, rfl⟩

theorem KeepsQuery.symm (h : d.KeepsQuery e) : e.KeepsQuery d := by
  rw [KeepsQuery] at h ⊢
  generalize e.saved = o, d.saved = p at h
  cases h with
  | none => exact .none
  | some hq =>
    exact .some ⟨hq.name.symm, hq.description.symm, hq.tags.symm, hq.createdAt.symm⟩

theorem KeepsQuery.trans {f : Document} (h : d.KeepsQuery e) (h' : e.KeepsQuery f) :
    d.KeepsQuery f := by
  rw [KeepsQuery] at h h' ⊢
  generalize d.saved = o, e.saved = p, f.saved = q at h h'
  cases h with
  | none => exact h'
  | some hq =>
    cases h' with
    | some hq' =>
      exact .some ⟨hq'.name.trans hq.name, hq'.description.trans hq.description,
        hq'.tags.trans hq.tags, hq'.createdAt.trans hq.createdAt⟩

theorem KeepsQuery.updated {now : Timestamp} {t : Tree} (h : d.KeepsQuery e)
    {saved : Option SavedQuery} (hsaved : saved = e.saved.map (·.updateTree now t)) :
    Option.Rel SavedQuery.IsVersionOf saved d.saved := by
  rw [KeepsQuery] at h
  rw [hsaved]
  generalize e.saved = o, d.saved = p at h
  cases h with
  | none => exact .none
  | some hq => exact .some ⟨hq.name, hq.description, hq.tags, hq.createdAt⟩

theorem KeepsQuery.run (h : d.KeepsQuery e) (actions : List Action) :
    d.KeepsQuery (e.run actions) := by
  induction actions generalizing e with
  | nil => exact h
  | cons a actions ih =>
    apply ih
    rcases e.saved_perform a with hsaved | ⟨now, hsaved⟩
    · rw [KeepsQuery, hsaved]
      exact h
    · exact h.updated hsaved

def fileJson (d : Document) : Json :=
  match d.saved with
  | some q => q.toJson
  | none => d.tree.toJson

theorem fileText_eq (d : Document) : d.fileText = d.fileJson.renderPretty := by
  rw [fileText, fileJson]
  cases d.saved <;> rfl

theorem isRead_fileJson (d : Document) : ∀ n ∈ d.fileJson.numerals, n.IsRead := by
  rw [fileJson]
  split
  · next q _ => exact q.isRead_toJson
  · exact d.tree.isRead_toJson

theorem depth_fileText (d : Document) :
    (Draft.ofText d.fileText).draft.depth = (Draft.ofJson d.fileJson).depth := by
  rw [fileText_eq, Json.ofText_writtenPretty d.isRead_fileJson, Draft.depth_readBy]

/-- The saved query holds the tree, and points in time that there are. -/
def IsFiled (d : Document) : Prop := ∀ q ∈ d.saved, q.tree = d.tree ∧ q.IsTimed

theorem fits_fileJson (d : Document) :
    Json.Fits Json.nestingLimit d.fileJson ↔
      (Draft.ofText d.fileText).draft.depth ≤ Json.nestingLimit := by
  rw [depth_fileText]
  rfl

theorem ofText_saved {q : SavedQuery} {text : String} (h : SavedQuery.ofText text = .ok q) :
    ofText path text catalog options
      = .ok { create q.tree catalog options with path := some path, saved := some q } := by
  rw [ofText, h]

theorem ofText_bare {fault : Json.Fault} {text : String}
    (h : SavedQuery.ofText text = .error fault) :
    ofText path text catalog options
      = ((Group.ofText text).mapError .notATree).map
        fun t => { create t catalog options with path := some path } := by
  rw [ofText, h]
  cases Group.ofText text <;> rfl

theorem ofText_query_iff {q : SavedQuery} (hq : q.IsTimed) :
    (∃ r, ofText path q.toJson.renderPretty catalog options = .ok r ∧ r.tree = q.tree ∧
        Option.Rel SavedQuery.IsVersionOf r.saved (some q)) ↔
      SavedQuery.ofText q.toJson.renderPretty = .ok q := by
  constructor
  · rintro ⟨r, hr, htree, hsaved⟩
    cases hread : SavedQuery.ofText q.toJson.renderPretty with
    | error fault =>
      rw [ofText_bare hread] at hr
      obtain ⟨t, -, rfl⟩ := Json.exists_ok_of_map hr
      cases hsaved
    | ok p =>
      rw [ofText_saved hread] at hr
      cases hr
      rw [SavedQuery.ofText_renderPretty hq] at hread
      obtain ⟨t, -, rfl⟩ := Json.exists_ok_of_map hread
      have ht : t = q.tree := htree
      rw [ht]
  · intro hread
    exact ⟨_, ofText_saved hread, rfl, .some ⟨rfl, rfl, rfl, rfl⟩⟩

theorem ofText_savedQuery_tree (t : Tree) :
    SavedQuery.ofText t.toJson.renderPretty = .error .mismatch := by
  rw [SavedQuery.ofText, Json.decodeText_renderPretty t.isRead_toJson]
  exact Group.savedQuery_readBy Numeral.reread? false t .text 126

theorem ofText_tree_iff {t : Tree} :
    (∃ r, ofText path t.toJson.renderPretty catalog options = .ok r ∧ r.tree = t ∧
        Option.Rel SavedQuery.IsVersionOf r.saved none) ↔
      Group.ofText t.toJson.renderPretty = .ok t := by
  rw [ofText_bare (ofText_savedQuery_tree t)]
  constructor
  · rintro ⟨r, hr, htree, -⟩
    obtain ⟨u, hu, rfl⟩ := Json.exists_ok_of_map hr
    cases hread : Group.ofText t.toJson.renderPretty with
    | error fault =>
      rw [hread] at hu
      cases hu
    | ok v =>
      rw [hread] at hu
      cases hu
      exact congrArg Except.ok htree
  · intro hread
    rw [hread]
    exact ⟨_, rfl, rfl, .none⟩

/-- The file of a document gives it back if and only if it is not too deep and all numbers of the
tree are read to the nearest number. -/
theorem ofText_fileText_iff (h : d.IsFiled) :
    (∃ r, ofText path d.fileText catalog options = .ok r ∧ r.tree = d.tree ∧ d.KeepsQuery r) ↔
      Json.Fits Json.nestingLimit d.fileJson ∧ ∀ x ∈ d.tree.numbers, x.IsReadNearest := by
  simp only [fileText_eq, KeepsQuery, fileJson]
  cases hsaved : d.saved with
  | none => exact ofText_tree_iff.trans Group.ofText_renderPretty_iff
  | some q =>
    obtain ⟨htree, htimed⟩ := h q hsaved
    rw [← htree]
    exact (ofText_query_iff htimed).trans (SavedQuery.ofText_renderPretty_iff htimed)

/-- A file that is too deep is not read, whatever it holds. -/
theorem ofText_too_deep (h : d.IsFiled) (hdeep : ¬ Json.Fits Json.nestingLimit d.fileJson) :
    ofText path d.fileText catalog options = .error (.notATree .malformed) := by
  have hbare : Group.ofText d.fileText = .error .malformed := by
    rw [fileText_eq, Group.ofText, Json.decodeText_renderPretty d.isRead_fileJson]
    rcases Draft.toJson_readBy Numeral.reread? d.fileJson Json.nestingLimit with hread | ⟨hfits, -⟩
    · simp only [Group.storedDecoder, hread, bind, Except.bind]
    · exact absurd hfits hdeep
  have hquery : ∃ fault, SavedQuery.ofText d.fileText = .error fault := by
    rw [fileText_eq]
    rw [fileJson] at hdeep ⊢
    cases hsaved : d.saved with
    | none => exact ⟨_, ofText_savedQuery_tree d.tree⟩
    | some q =>
      rw [hsaved] at hdeep
      obtain ⟨htree, htimed⟩ := h q hsaved
      dsimp only
      rw [SavedQuery.ofText_renderPretty htimed]
      cases hread : Group.decoder .text 126 (Draft.readBy Numeral.reread? q.tree.toJson) with
      | error fault => exact ⟨fault, rfl⟩
      | ok t => exact absurd (SavedQuery.fits_toJson.2 (Group.fits_of_decoder hread)) hdeep
  obtain ⟨fault, hquery⟩ := hquery
  rw [ofText_bare hquery, hbare]
  rfl

theorem isTimed_of_ofText {text : String} (h : ofText path text catalog options = .ok d) :
    ∀ q ∈ d.saved, q.IsTimed := by
  intro q hq
  cases hread : SavedQuery.ofText text with
  | error fault =>
    rw [ofText_bare hread] at h
    obtain ⟨t, -, rfl⟩ := Json.exists_ok_of_map h
    cases hq
  | ok p =>
    rw [ofText_saved hread] at h
    cases h
    cases hq
    exact SavedQuery.isTimed_of_ofText hread

section Files

variable {σ : Type} {s : Storage (StateM σ)} {now : Timestamp} {before after : σ}

/-- Saves to another file, or to the one that backs the document. -/
def saveTo {m : Type → Type} [Monad m] (s : Storage m) (now : Timestamp) (target : Option Path)
    (d : Document) : m (Except Error Unit × Document) :=
  match target with
  | some path => d.saveAs s now path
  | none => d.save s now

theorem writeTo_ok (h : (d.writeTo s now path).run before = ((.ok (), e), after)) :
    (s.write path (d.updateSaved now).fileText).run before = (.ok (), after) ∧
      e = { d.updateSaved now with isDirty := false } := by
  simp only [writeTo, StateT.run, bind, StateT.bind] at h ⊢
  cases hw : s.write path (d.updateSaved now).fileText before with
  | mk result rest =>
    rw [hw] at h
    cases result with
    | error message => cases h
    | ok done =>
      cases h
      exact ⟨rfl, rfl⟩

theorem save_ok {file : Path} (hpath : d.path = some file)
    (hwrite : (s.write file (d.updateSaved now).fileText).run before = (.ok (), after)) :
    (d.save s now).run before
      = ((.ok (), { d.updateSaved now with isDirty := false }), after) := by
  simp only [StateT.run] at hwrite
  simp only [save, hpath, writeTo, StateT.run, bind, StateT.bind, hwrite]
  rfl

theorem saveTo_ok {target : Option Path}
    (h : (d.saveTo s now target).run before = ((.ok (), e), after)) :
    ∃ file, e.path = some file ∧ (s.write file e.fileText).run before = (.ok (), after) ∧
      e.tree = d.tree ∧ e.saved = d.saved.map (·.updateTree now d.tree) := by
  cases target with
  | none =>
    rw [saveTo, save] at h
    cases hpath : d.path with
    | none =>
      rw [hpath] at h
      cases h
    | some file =>
      rw [hpath] at h
      obtain ⟨hwrite, rfl⟩ := writeTo_ok h
      exact ⟨file, hpath, hwrite, rfl, rfl⟩
  | some file =>
    simp only [saveTo, saveAs, StateT.run, bind, StateT.bind] at h
    cases hw : d.writeTo s now file before with
    | mk result rest =>
      obtain ⟨result, saved⟩ := result
      rw [hw] at h
      cases result with
      | error error => cases h
      | ok done =>
        obtain ⟨hwrite, rfl⟩ := writeTo_ok hw
        cases h
        exact ⟨file, rfl, hwrite, rfl, rfl⟩

theorem load_of_read {text : String} (h : ((s.read path).run before).1 = .ok text) :
    ((load s path catalog options).run before).1 = ofText path text catalog options := by
  simp only [load, StateT.run, bind, StateT.bind] at h ⊢
  cases hr : s.read path before with
  | mk result rest =>
    rw [hr] at h
    cases h
    rfl

theorem exists_text_of_load (h : ((load s path catalog options).run before).1 = .ok d) :
    ∃ text, ofText path text catalog options = .ok d := by
  simp only [load, StateT.run, bind, StateT.bind] at h
  cases hr : s.read path before with
  | mk result rest =>
    rw [hr] at h
    cases result with
    | error message => cases h
    | ok text => exact ⟨text, h⟩

theorem isFiled_of_saveTo {d' : Document} (hopened : ∀ q ∈ d.saved, q.IsTimed)
    (hkeeps : d.KeepsQuery d') (hnow : now.clock.IsTime) (htree : e.tree = d'.tree)
    (hsaved : e.saved = d'.saved.map (·.updateTree now d'.tree)) : e.IsFiled := by
  intro q hq
  rw [hsaved] at hq
  obtain ⟨p, hp, rfl⟩ := Option.mem_map.1 hq
  rw [KeepsQuery, Option.mem_def.1 hp] at hkeeps
  refine ⟨htree.symm, ?_, hnow⟩
  generalize hd : d.saved = o at hkeeps
  cases hkeeps with
  | some hversion =>
    have horiginal := (hopened _ hd).createdAt
    rw [← hversion.createdAt] at horiginal
    exact horiginal

end Files

end Document

/-- After a save that succeeds, opening the file gives back the tree, and all of a saved query that
edits leave alone, if and only if the file is not too deep for the reader and all numbers of the
tree are read to the nearest number. A file that is too deep is not opened at all. -/
theorem saved_file_reopens_iff {σ : Type} (s : Storage (StateM σ)) (hs : s.Remembers)
    (opened before after : σ) (path : Path) (catalog : Catalog) (options : Document.Options)
    (d : Document) (hload : ((Document.load s path catalog options).run opened).1 = .ok d)
    (actions : List Document.Action) (target : Option Path) (now : Timestamp)
    (hnow : now.clock.IsTime) (e : Document)
    (hsave : ((d.run actions).saveTo s now target).run before = ((.ok (), e), after)) :
    ∃ file, e.path = some file ∧ ∀ (catalog' : Catalog) (options' : Document.Options),
      let again := ((Document.load s file catalog' options').run after).1
      let depth := (Json.Draft.ofText e.fileText).draft.depth
      ((∃ r, again = .ok r ∧ r.tree = (d.run actions).tree ∧ d.KeepsQuery r) ↔
        depth ≤ Json.nestingLimit ∧ ∀ x ∈ (d.run actions).tree.numbers, x.IsReadNearest) ∧
      (Json.nestingLimit < depth → again = .error (.notATree .malformed)) := by
  obtain ⟨text, hopen⟩ := Document.exists_text_of_load hload
  obtain ⟨file, hfile, hwrite, htree, hsaved⟩ := Document.saveTo_ok hsave
  have hkeeps : d.KeepsQuery (d.run actions) := d.keepsQuery_refl.run actions
  have hkept : d.KeepsQuery e := hkeeps.updated hsaved
  have hfiled : e.IsFiled :=
    Document.isFiled_of_saveTo (Document.isTimed_of_ofText hopen) hkeeps hnow htree hsaved
  refine ⟨file, hfile, fun catalog' options' => ?_⟩
  have hread := hs file e.fileText before after hwrite
  simp only [Document.load_of_read hread, ← htree, ← Document.fits_fileJson]
  constructor
  · have hopens : (∃ r, Document.ofText file e.fileText catalog' options' = .ok r ∧
        r.tree = e.tree ∧ e.KeepsQuery r) ↔ _ := Document.ofText_fileText_iff hfiled
    rw [← hopens]
    constructor
    · rintro ⟨r, hr, hrtree, hrkeeps⟩
      exact ⟨r, hr, hrtree, hkept.symm.trans hrkeeps⟩
    · rintro ⟨r, hr, hrtree, hrkeeps⟩
      exact ⟨r, hr, hrtree, hkept.trans hrkeeps⟩
  · intro hdeep
    apply Document.ofText_too_deep hfiled
    rw [Document.fits_fileJson]
    exact Nat.not_le.2 hdeep

/-- A saved query that is edited in a batch, with a step back and forth, and saved to its file. -/
theorem saved_file_reopens_iff_query :
    let day : Date := ⟨2024, 2, 29, by decide, by decide, by decide⟩
    let noon : Timestamp := ⟨day, ⟨12, 0, 0, 500000000⟩⟩
    let half : Number := ⟨true, 5 * Nat.pow 2 50, 1023, by decide, by decide, by decide, by decide⟩
    let t : Tree := ⟨⟨"r", .and, false, none⟩,
      [.condition ⟨"c", "size", .greaterThan, .number half, none⟩]⟩
    let q : SavedQuery := ⟨"Big", some "All big ones", ["a", "b"], t, noon, noon⟩
    let disk : Disk := ⟨[(["q.json"], q.toJson.renderPretty)], [], []⟩
    let d := { Document.create t ⟨[]⟩ {} with path := some ⟨"/q.json"⟩, saved := some q }
    let e := d.run [.openBatch "b", .apply day (.addGroup "r" none), .closeBatch, .undo, .redo]
    let saved := (e.saveTo Disk.storage ⟨day, ⟨13, 30, 0, 0⟩⟩ none).run disk
    ((Document.load Disk.storage ⟨"/q.json"⟩ ⟨[]⟩ {}).run disk).1 = .ok d ∧ saved.1.1 = .ok () ∧
      ∃ r, ((Document.load Disk.storage ⟨"/q.json"⟩ ⟨[]⟩ {}).run saved.2).1 = .ok r ∧
        r.tree = e.tree ∧ d.KeepsQuery r := by
  intro day noon half t q disk d e saved
  have hnoon : noon.clock.IsTime := by constructor <;> decide
  have hnow : (⟨13, 30, 0, 0⟩ : Clock).IsTime := by constructor <;> decide
  have hnearest : ∀ x ∈ q.tree.numbers, x.IsReadNearest := by decide +kernel
  have hfits : Json.Fits Json.nestingLimit q.toJson := by
    rw [Json.Fits]
    decide +kernel
  have hopen := (SavedQuery.ofText_renderPretty_iff ⟨hnoon, hnoon⟩).2 ⟨hfits, hnearest⟩
  have hread : ((Disk.storage.read ⟨"/q.json"⟩).run disk).1 = .ok q.toJson.renderPretty := by rfl
  have hload : ((Document.load Disk.storage ⟨"/q.json"⟩ ⟨[]⟩ {}).run disk).1 = .ok d := by
    rw [Document.load_of_read hread, Document.ofText_saved hopen]
  have hok : saved.1.1 = .ok () := by rfl
  have hpath : saved.1.2.path = some ⟨"/q.json"⟩ := by rfl
  have hsave : saved = ((.ok (), saved.1.2), saved.2) := Prod.ext (Prod.ext hok rfl) rfl
  obtain ⟨file, hfile, hiff⟩ := saved_file_reopens_iff Disk.storage Disk.remembers_storage disk disk
    saved.2 ⟨"/q.json"⟩ ⟨[]⟩ {} d hload _ none ⟨day, ⟨13, 30, 0, 0⟩⟩ hnow saved.1.2 hsave
  cases hpath.symm.trans hfile
  refine ⟨hload, hok, (hiff ⟨[]⟩ {}).1.2 ?_⟩
  rw [Document.depth_fileText]
  decide +kernel

/-- Empty groups inside one another, each with a longer id than the one in it. -/
def Group.nested : Nat → Group
  | 0 => .empty "g"
  | n + 1 =>
    ⟨⟨String.ofList (List.replicate (n + 2) 'g'), .and, false, none⟩, [(nested n).toNode]⟩

/-- A tree that is opened can be given one more group and saved, and then not be opened again. -/
theorem deep_tree_not_reopened :
    let day : Date := ⟨2024, 2, 29, by decide, by decide, by decide⟩
    let noon : Timestamp := ⟨day, ⟨12, 0, 0, 0⟩⟩
    let t := Group.nested 62
    let disk : Disk := ⟨[(["t.json"], t.toJson.renderPretty)], [], []⟩
    let d := { Document.create t ⟨[]⟩ {} with path := some ⟨"/t.json"⟩ }
    let e := (d.apply day (.addGroup "g" none)).2
    let saved := (e.save Disk.storage noon).run disk
    ((Document.load Disk.storage ⟨"/t.json"⟩ ⟨[]⟩ {}).run disk).1 = .ok d ∧ saved.1.1 = .ok () ∧
      ((Document.load Disk.storage ⟨"/t.json"⟩ ⟨[]⟩ {}).run saved.2).1
        = .error (.notATree .malformed) := by
  intro day noon t disk d e saved
  have hnearest : ∀ x ∈ t.numbers, x.IsReadNearest := by decide +kernel
  have hfits : Json.Fits Json.nestingLimit t.toJson := by
    rw [Json.Fits]
    decide +kernel
  have hopen := Group.ofText_renderPretty_iff.2 ⟨hfits, hnearest⟩
  have hread : ((Disk.storage.read ⟨"/t.json"⟩).run disk).1 = .ok t.toJson.renderPretty := by rfl
  have hload : ((Document.load Disk.storage ⟨"/t.json"⟩ ⟨[]⟩ {}).run disk).1 = .ok d := by
    rw [Document.load_of_read hread, Document.ofText_bare (Document.ofText_savedQuery_tree t),
      hopen]
    rfl
  have hpath : e.path = some ⟨"/t.json"⟩ := d.path_apply day _
  have hquery : e.saved = none := d.saved_apply day _
  have hdeep : ¬ Json.Fits Json.nestingLimit e.tree.toJson := by
    rw [Json.Fits]
    decide +kernel
  -- From here on only the path, the missing query and the depth of the edited document count.
  clear_value e
  have hupdated : e.updateSaved noon = e := by
    rw [Document.updateSaved, hquery, Option.map_none, ← hquery]
  have hwrite : (Disk.storage.write ⟨"/t.json"⟩ (e.updateSaved noon).fileText).run disk
      = (.ok (), { disk with files := [(["t.json"], (e.updateSaved noon).fileText)] }) := by rfl
  have hfiled : e.IsFiled := by
    intro q hq
    rw [hquery] at hq
    cases hq
  have hsave : saved = _ := Document.save_ok hpath hwrite
  refine ⟨hload, ?_⟩
  rw [hsave]
  refine ⟨rfl, ?_⟩
  rw [Document.load_of_read (Disk.remembers_storage _ _ _ _ hwrite), hupdated]
  apply Document.ofText_too_deep hfiled
  rw [Document.fileJson, hquery]
  exact hdeep

end Criteria
