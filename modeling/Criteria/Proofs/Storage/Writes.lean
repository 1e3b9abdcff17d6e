import Criteria.Proofs.Storage.Session
import Criteria.Proofs.Storage.Sound

namespace Criteria

namespace Disk

variable {d m e : Disk} {p : Path} {s : String} {ws ws' before after : List (Path × String)}

/-- Leads from one disk to another by writing these texts to these paths, and making folders. -/
inductive Wrote : Disk → List (Path × String) → Disk → Prop where
  | done (d : Disk) : Wrote d [] d
  | folders {d m e : Disk} {p : Path} {ws : List (Path × String)}
    (hmake : d.makeFolders p = (.ok (), m)) (h : Wrote m ws e) : Wrote d ws e
  | file {d m e : Disk} {p : Path} {s : String} {ws : List (Path × String)}
    (hwrite : d.write p s = .ok m) (h : Wrote m ws e) : Wrote d ((p, s) :: ws) e

theorem grows_makeFolders (hmake : d.makeFolders p = (.ok (), m)) : d.Grows m := by
  have hgrows := grows_makeAlong d (d.origin p) p.parts
  rw [makeFolders] at hmake
  rwa [hmake] at hgrows

theorem Wrote.trans (h : Wrote d ws m) (h' : Wrote m ws' e) : Wrote d (ws ++ ws') e := by
  induction h with
  | done d => exact h'
  | folders hmake _ ih => exact .folders hmake (ih h')
  | file hwrite _ ih => exact .file hwrite (ih h')

theorem Wrote.grows (h : Wrote d ws e) : d.Grows e := by
  induction h with
  | done d => exact .refl d
  | folders hmake _ ih => exact (grows_makeFolders hmake).trans ih
  | file hwrite _ ih => exact (grows_write hwrite).trans ih

theorem Wrote.sound (h : Wrote d ws e) (hd : d.Sound) : e.Sound := by
  induction h with
  | done d => exact hd
  | @folders d m e p ws hmake _ ih =>
    have hm := sound_makeFolders hd p
    rw [hmake] at hm
    exact ih hm
  | file hwrite _ ih => exact ih (sound_write hd hwrite)

theorem exists_place_of_write (hwrite : d.write p s = .ok m) : ∃ place, m.place? p = some place ∧
    m.isFolder place = false ∧ m.text? place = some s := by
  obtain ⟨place, hplace, hno, rfl⟩ := write_eq_ok hwrite
  exact ⟨place, (place?_files d _ p).trans hplace, hno, text?_put_self place s d⟩

theorem Wrote.exists_place (h : Wrote d ws e) (hw : (p, s) ∈ ws) :
    ∃ place, e.place? p = some place ∧ e.isFolder place = false := by
  induction h with
  | done d => cases hw
  | folders hmake _ ih => exact ih hw
  | file hwrite h ih =>
    rcases List.mem_cons.1 hw with hw | hw
    · obtain ⟨rfl, rfl⟩ := Prod.mk.inj hw
      obtain ⟨place, hplace, hno, htext⟩ := exists_place_of_write hwrite
      exact ⟨place, h.grows.place? hplace,
        h.grows.apart place (Option.isSome_of_eq_some htext) hno⟩
    · exact ih hw

theorem Wrote.text? (h : Wrote d ws e) (place : List String) : e.text? place = d.text? place ∨
    ∃ p s, (p, s) ∈ ws ∧ e.place? p = some place ∧ e.text? place = some s := by
  induction h with
  | done d => exact .inl rfl
  | @folders d m e p ws hmake _ ih =>
    have htext := text?_makeAlong d (d.origin p) p.parts place
    rw [makeFolders] at hmake
    rw [hmake] at htext
    rwa [htext] at ih
  | @file d m e p s ws hwrite h ih =>
    rcases ih with hkept | ⟨q, t, hw, hplace, htext⟩
    · have hgrows := grows_write hwrite
      obtain ⟨q, hq, -, rfl⟩ := write_eq_ok hwrite
      by_cases hsame : place = q
      · subst hsame
        refine .inr ⟨p, s, List.mem_cons_self, (hgrows.trans h.grows).place? hq, ?_⟩
        rw [hkept, text?_put_self]
      · exact .inl (hkept.trans (text?_put_ne hsame s d))
    · exact .inr ⟨q, t, List.mem_cons_of_mem _ hw, hplace, htext⟩

/-- In the end a file holds a text if that is what was written to it, and nothing else was later. -/
theorem Wrote.read (h : Wrote d ws e) (hws : ws = before ++ (p, s) :: after)
    (hlater : ∀ q t, (q, t) ∈ after → e.place? q = e.place? p → t = s) : e.read p = .ok s := by
  induction h generalizing before with
  | done d => simp at hws
  | folders hmake _ ih => exact ih hws hlater
  | file hwrite h ih =>
    rcases List.cons_eq_append_iff.1 hws with ⟨rfl, hcons⟩ | ⟨before, rfl, hws⟩
    · obtain ⟨hw, rfl⟩ := List.cons.inj hcons
      obtain ⟨rfl, rfl⟩ := Prod.mk.inj hw
      obtain ⟨place, hplace, -, htext⟩ := exists_place_of_write hwrite
      have hplace := h.grows.place? hplace
      refine read_eq_ok.2 ⟨place, hplace, ?_⟩
      rcases h.text? place with hkept | ⟨q, t, hw, hsame, hlast⟩
      · exact hkept.trans htext
      · rw [hlast, hlater q t hw (hsame.trans hplace.symm)]
    · exact ih (List.cons.inj hws).2 hlater

end Disk

namespace Session

open Disk (Wrote)

variable {α β : Type} {x : StateM Session α} {a : α} {ws ws' : List (Path × String)}

/-- A run that gives `a` writes these texts to these paths. -/
def Writes (x : StateM Session α) (a : α) (ws : List (Path × String)) : Prop :=
  ∀ ⦃s s' : Session⦄, x.run s = (a, s') → Wrote s.disk ws s'.disk

theorem run_bind_iff {x : StateM Session α} {f : α → StateM Session β} {b : β} {s s' : Session} :
    (x >>= f).run s = (b, s') ↔ ∃ a m, x.run s = (a, m) ∧ (f a).run m = (b, s') := by
  constructor
  · exact fun h => ⟨(x.run s).1, (x.run s).2, rfl, h⟩
  · rintro ⟨a, m, hx, h⟩
    change (f (x.run s).1).run (x.run s).2 = _
    rw [hx]
    exact h

theorem run_bind_ok_iff {x : ExceptT String (StateM Session) α}
    {f : α → ExceptT String (StateM Session) β} {b : β} {s s' : Session} :
    (x >>= f).run.run s = (.ok b, s') ↔
      ∃ a m, x.run.run s = (.ok a, m) ∧ (f a).run.run m = (.ok b, s') := by
  rw [ExceptT.run_bind, run_bind_iff]
  constructor
  · rintro ⟨found, m, hfound, h⟩
    cases found with
    | error message => cases h
    | ok a => exact ⟨a, m, hfound, h⟩
  · rintro ⟨a, m, hfound, h⟩
    exact ⟨.ok a, m, hfound, h⟩

theorem writes_pure (a : α) : Writes (pure a) a [] := by
  intro s s' hrun
  cases hrun
  exact .done _

theorem writes_bind_ok {x : ExceptT String (StateM Session) α}
    {f : α → ExceptT String (StateM Session) β} {b : β} (hx : ∀ a, Writes x.run (.ok a) ws)
    (hf : ∀ a, Writes (f a).run (.ok b) ws') : Writes (x >>= f).run (.ok b) (ws ++ ws') := by
  intro s s' hrun
  obtain ⟨a, m, hfound, hrun⟩ := run_bind_ok_iff.1 hrun
  exact (hx a hfound).trans (hf a hrun)

theorem writes_mapM {f : α → ExceptT String (StateM Session) β} {w : α → Path × String}
    (hf : ∀ x b, Writes (f x).run (.ok b) [w x]) (xs : List α) :
    ∀ bs, Writes (xs.mapM f).run (.ok bs) (xs.map w) := by
  induction xs with
  | nil =>
    intro bs s s' hrun
    cases hrun
    exact .done _
  | cons x xs ih =>
    intro bs s s' hrun
    rw [List.mapM_cons] at hrun
    obtain ⟨b, m, hx, hrun⟩ := run_bind_ok_iff.1 hrun
    obtain ⟨bs, m', hxs, hrun⟩ := run_bind_ok_iff.1 hrun
    cases hrun
    exact (hf x b hx).trans (ih bs hxs)

theorem writes_say (line : String) (u : PUnit) : Writes (host.say line) u [] := by
  intro s s' hrun
  cases hrun
  exact .done _

theorem writes_forM_say (lines : List α) (line : α → String) :
    ∀ u, Writes (lines.forM fun a => host.say (line a)) u [] := by
  induction lines with
  | nil => exact fun u => writes_pure u
  | cons a lines ih =>
    intro u s s' hrun
    exact (writes_say (line a) _ rfl).trans (ih u hrun)

theorem writes_makeFolders (p : Path) : Writes (host.makeFolders p) (.ok ()) [] := by
  intro s s' hrun
  obtain ⟨hok, rfl⟩ := Prod.mk.inj hrun
  exact .folders (Prod.ext hok rfl) (.done _)

theorem writes_write (p : Path) (text : String) :
    Writes (host.write p text) (.ok ()) [(p, text)] := by
  intro s s' hrun
  rw [Trail.run_write] at hrun
  split at hrun
  · next d hwrite =>
    obtain ⟨-, rfl⟩ := Prod.mk.inj hrun
    exact .file hwrite (.done _)
  · cases hrun

end Session

end Criteria
