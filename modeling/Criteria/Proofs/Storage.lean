import Criteria.Storage.Disk

namespace Criteria

/-- What has been written to a file is what is read from it next. -/
def Storage.Remembers {σ : Type} (s : Storage (StateM σ)) : Prop :=
  ∀ (path : Path) (text : String) (before after : σ),
    (s.write path text).run before = (.ok (), after) → ((s.read path).run after).1 = .ok text

namespace Disk

theorem text?_put (place : List String) (s : String) (files : List (List String × String)) :
    ((put place s files).find? (·.1 = place)).map (·.2) = some s := by
  induction files with
  | nil => simp [put]
  | cons f files ih =>
    rw [put]
    split
    · simp
    · next hne =>
      rw [List.find?_cons_of_neg (by simpa using hne)]
      exact ih

theorem follow_files (d : Disk) (files : List (List String × String)) (parts : List String) :
    ∀ place, { d with files }.follow place parts = d.follow place parts := by
  induction parts with
  | nil => exact fun place => rfl
  | cons part parts ih =>
    intro place
    have hfolder : { d with files }.isFolder place = d.isFolder place := rfl
    simp only [follow, hfolder, ih]

theorem place?_files (d : Disk) (files : List (List String × String)) (p : Path) :
    { d with files }.place? p = d.place? p := by
  rw [place?, place?]
  split
  · rfl
  · exact d.follow_files files p.parts (d.origin p)

theorem read_write {d e : Disk} {p : Path} {s : String} (h : d.write p s = .ok e) :
    e.read p = .ok s := by
  rw [write] at h
  split at h
  · cases h
  · next place hplace =>
    split at h
    · cases h
    · cases h
      have htext := text?_put place s d.files
      rw [read, place?_files, hplace, Option.bind_some, text?, htext]

theorem remembers_storage : storage.Remembers := by
  intro path text before after h
  cases hwrite : before.write path text with
  | error message =>
    simp only [storage, StateT.run, bind, StateT.bind, get, getThe, MonadStateOf.get, StateT.get,
      pure, hwrite] at h
    cases h
  | ok d =>
    simp only [storage, StateT.run, bind, StateT.bind, get, getThe, MonadStateOf.get, StateT.get,
      pure, hwrite] at h
    cases h
    exact read_write hwrite

end Disk

end Criteria
