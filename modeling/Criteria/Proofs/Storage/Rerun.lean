import Criteria.Proofs.Storage.Growth

namespace Criteria

/-- A run that is to be done again: the disks before and after it, the files that it may read, and
the places that it may write to. -/
structure Trail where
  start : Disk
  last : Disk
  inputs : Path → Prop
  outputs : List String → Prop

namespace Trail

variable {r : Trail} {d d' e : Disk} {p : Path} {s : String}

/-- What the run reads is in the end as it was. -/
def Undisturbed (r : Trail) : Prop := ∀ p, r.inputs p → r.last.read p = r.start.read p

/-- No file has been changed but those that the run may write to. -/
def Confined (r : Trail) (d d' : Disk) : Prop :=
  ∀ place, r.outputs place ∨ d'.text? place = d.text? place

theorem Confined.trans {d'' : Disk} (h : r.Confined d d') (h' : r.Confined d' d'') :
    r.Confined d d'' := by
  intro place
  rcases h place with hout | heq
  · exact .inl hout
  · rw [← heq]
    exact h' place

theorem confined_write (hwrite : d.write p s = .ok d') (hlast : d'.Grows r.last)
    (hout : ∀ place, r.last.place? p = some place → r.outputs place) : r.Confined d d' := by
  have hgrows := Disk.grows_write hwrite
  obtain ⟨place, hplace, -, rfl⟩ := Disk.write_eq_ok hwrite
  intro q
  by_cases hq : q = place
  · exact .inl (hq ▸ hout place ((hgrows.trans hlast).place? hplace))
  · exact .inr (Disk.text?_put_ne hq s d)

/-- The second run has come to `e` when the first was at `d`: in each place it has written the same,
or has yet to write and finds what the first run has left there in the end. -/
structure InStep (r : Trail) (d e : Disk) : Prop where
  grown : r.start.Grows d
  here : e.here = d.here
  folders : e.folders = r.last.folders
  text : ∀ place, e.text? place = d.text? place ∨
    d.text? place = r.start.text? place ∧ e.text? place = r.last.text? place

theorem inStep_start (h : r.start.Grows r.last) : r.InStep r.start r.last where
  grown := .refl _
  here := h.here
  folders := rfl
  text _ := .inr ⟨rfl, rfl⟩

theorem InStep.isFolder (h : r.InStep d e) (place : List String) :
    e.isFolder place = r.last.isFolder place := by
  rw [Disk.isFolder, Disk.isFolder, h.folders]

theorem InStep.place? (h : r.InStep d e) (hlast : d.Grows r.last) {place : List String}
    (hplace : d.place? p = some place) : e.place? p = some place := by
  have he : e = { r.last with files := e.files } := by
    obtain ⟨_, _, _⟩ := e
    obtain ⟨-, hhere, rfl, -⟩ := h
    obtain rfl := hhere.trans hlast.here.symm
    rfl
  rw [he, Disk.place?_files]
  exact hlast.place? hplace

theorem InStep.read (h : r.InStep d e) (hlast : d.Grows r.last)
    (hsame : r.last.read p = r.start.read p) (hread : d.read p = .ok s) : e.read p = .ok s := by
  obtain ⟨place, hplace, hs⟩ := Disk.read_eq_ok.1 hread
  refine Disk.read_eq_ok.2 ⟨place, h.place? hlast hplace, ?_⟩
  rcases h.text place with heq | ⟨hstart, hend⟩
  · rw [heq, hs]
  · -- the file was there before the first run, since it is there after it
    obtain ⟨text, htext⟩ := Option.isSome_iff_exists.1 (hlast.isSome (Option.isSome_of_eq_some hs))
    have hlastRead : r.last.read p = .ok text :=
      Disk.read_eq_ok.2 ⟨place, hlast.place? hplace, htext⟩
    obtain ⟨q, hq, hqtext⟩ := Disk.read_eq_ok.1 (hsame.symm.trans hlastRead)
    obtain rfl := Option.some.inj ((h.grown.place? hq).symm.trans hplace)
    rw [hend, htext, ← hqtext, ← hstart, hs]

theorem InStep.write (h : r.InStep d e) (hwrite : d.write p s = .ok d') (hlast : d'.Grows r.last) :
    ∃ e', e.write p s = .ok e' ∧ r.InStep d' e' := by
  have hgrows := Disk.grows_write hwrite
  obtain ⟨place, hplace, hno, rfl⟩ := Disk.write_eq_ok hwrite
  have hfolder : e.isFolder place = false := by
    rw [h.isFolder]
    exact hlast.apart place (by rw [Disk.text?_put_self]; rfl) hno
  refine ⟨_, Disk.write_of_place? (h.place? (hgrows.trans hlast) hplace) hfolder s, ?_⟩
  refine ⟨h.grown.trans hgrows, h.here, h.folders, ?_⟩
  intro q
  by_cases hq : q = place
  · rw [hq, Disk.text?_put_self, Disk.text?_put_self]
    exact .inl rfl
  · rw [Disk.text?_put_ne hq, Disk.text?_put_ne hq]
    exact h.text q

theorem InStep.makeFolders (h : r.InStep d e) (hmake : d.makeFolders p = (.ok (), d'))
    (hlast : d'.Grows r.last) : e.makeFolders p = (.ok (), e) ∧ r.InStep d' e := by
  have horigin : e.origin p = d.origin p := by rw [Disk.origin, Disk.origin, h.here]
  rw [Disk.makeFolders] at hmake
  have hgrows := Disk.grows_makeAlong d (d.origin p) p.parts
  have htext := Disk.text?_makeAlong d (d.origin p) p.parts
  have hagain := Disk.makeAlong_again (e := e) d (d.origin p) p.parts
  rw [hmake] at hgrows htext hagain
  refine ⟨?_, h.grown.trans hgrows, h.here.trans hgrows.here.symm, h.folders, ?_⟩
  · rw [Disk.makeFolders, horigin]
    refine hagain rfl fun q hq => ?_
    rw [h.isFolder]
    exact hlast.folders q hq
  · intro q
    rw [htext]
    exact h.text q

end Trail

end Criteria
