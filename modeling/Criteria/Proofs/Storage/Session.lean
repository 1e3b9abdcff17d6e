import Criteria.Proofs.Storage.Rerun
import Criteria.Storage.Session

namespace Criteria

variable {α β : Type} {p : Path} {s : String}

namespace Session

/-- A program that leaves the session as it is. -/
def OnlyReads (x : StateM Session α) : Prop := ∀ s, (x.run s).2 = s

theorem onlyReads_bind {x : StateM Session α} {f : α → StateM Session β} (hx : OnlyReads x)
    (hf : ∀ a, OnlyReads (f a)) : OnlyReads (x >>= f) := by
  intro s
  change ((f (x.run s).1).run (x.run s).2).2 = s
  rw [hf, hx]

theorem onlyReads_bind_ok {x : ExceptT String (StateM Session) α}
    {f : α → ExceptT String (StateM Session) β} (hx : OnlyReads x.run)
    (hf : ∀ a, OnlyReads (f a).run) : OnlyReads (x >>= f).run := by
  rw [ExceptT.run_bind]
  apply onlyReads_bind hx
  intro a
  cases a with
  | error e => exact fun s => rfl
  | ok a => exact hf a

theorem run_bind_eq_ok {x : ExceptT String (StateM Session) α}
    {f : α → ExceptT String (StateM Session) β} {b : β} {s s' : Session} (hx : OnlyReads x.run) :
    (x >>= f).run.run s = (.ok b, s') ↔
      ∃ a, x.run.run s = (.ok a, s) ∧ (f a).run.run s = (.ok b, s') := by
  have hs := hx s
  rw [ExceptT.run_bind, StateT.run_bind]
  generalize x.run.run s = found at hs ⊢
  obtain ⟨found, s₁⟩ := found
  obtain rfl : s = s₁ := hs.symm
  cases found with
  | error message =>
    constructor
    · intro h
      cases h
    · rintro ⟨a, h, -⟩
      cases h
  | ok a =>
    constructor
    · exact fun h => ⟨a, rfl, h⟩
    · rintro ⟨a', h, hrun⟩
      cases h
      exact hrun

theorem onlyReads_filterM {p : α → ExceptT String (StateM Session) Bool}
    (hp : ∀ x, OnlyReads (p x).run) (xs : List α) : OnlyReads (xs.filterM p).run := by
  have haux : ∀ acc, OnlyReads (xs.filterAuxM p acc).run := by
    induction xs with
    | nil => exact fun acc s => rfl
    | cons x xs ih =>
      intro acc
      rw [List.filterAuxM]
      exact onlyReads_bind_ok (hp x) fun b => ih _
  rw [List.filterM]
  exact onlyReads_bind_ok (haux []) fun _ s => rfl

theorem run_filterM {p : α → ExceptT String (StateM Session) Bool} {b : α → Bool} {s : Session}
    (hp : ∀ x, (p x).run.run s = (.ok (b x), s)) (xs : List α) :
    (xs.filterM p).run.run s = (.ok (xs.filter b), s) := by
  have haux : ∀ acc, (xs.filterAuxM p acc).run.run s = (.ok ((xs.filter b).reverse ++ acc), s) := by
    induction xs with
    | nil => exact fun acc => rfl
    | cons x xs ih =>
      intro acc
      rw [List.filterAuxM, ExceptT.run_bind, StateT.run_bind, hp x]
      refine (ih _).trans ?_
      cases hx : b x
      · rw [List.filter_cons_of_neg (Bool.eq_false_iff.1 hx)]
        rfl
      · rw [List.filter_cons_of_pos hx, List.reverse_cons, List.append_assoc]
        rfl
  rw [List.filterM, ExceptT.run_bind, StateT.run_bind, haux []]
  change (Except.ok ((xs.filter b).reverse ++ []).reverse, s) = _
  rw [List.append_nil, List.reverse_reverse]

end Session

namespace Trail

variable {r : Trail}

/-- A run that has given `a` changes no file but its outputs, and if its inputs are undisturbed, it
gives `a` again in step with the first run. -/
def Repeats (r : Trail) (x : StateM Session α) (a : α) : Prop :=
  ∀ ⦃s s' : Session⦄, x.run s = (a, s') →
    s.disk.Grows s'.disk ∧
      (s'.disk.Grows r.last → r.Confined s.disk s'.disk ∧
        (r.Undisturbed → ∀ ⦃t : Session⦄, r.InStep s.disk t.disk →
          ∃ t' : Session, x.run t = (a, t') ∧ r.InStep s'.disk t'.disk))

theorem repeats_pure (a : α) : r.Repeats (pure a) a := by
  intro s s' hrun
  cases hrun
  exact ⟨.refl _, fun _ => ⟨fun _ => .inr rfl, fun _ t ht => ⟨t, rfl, ht⟩⟩⟩

/-- The first program need only repeat with what lets the second one give `b`. -/
theorem repeats_bind {x : StateM Session α} {f : α → StateM Session β} {b : β}
    (h : ∀ a s s', (f a).run s = (b, s') → r.Repeats x a ∧ r.Repeats (f a) b) :
    r.Repeats (x >>= f) b := by
  intro s s' hrun
  change (f (x.run s).1).run (x.run s).2 = (b, s') at hrun
  obtain ⟨hx, hf⟩ := h _ _ _ hrun
  obtain ⟨hgrows, hstep⟩ := hx rfl
  obtain ⟨hgrows', hstep'⟩ := hf hrun
  refine ⟨hgrows.trans hgrows', ?_⟩
  intro hlast
  obtain ⟨hconfined, hagain⟩ := hstep (hgrows'.trans hlast)
  obtain ⟨hconfined', hagain'⟩ := hstep' hlast
  refine ⟨hconfined.trans hconfined', ?_⟩
  intro hinputs t ht
  obtain ⟨t₁, hrun₁, ht₁⟩ := hagain hinputs ht
  obtain ⟨t₂, hrun₂, ht₂⟩ := hagain' hinputs ht₁
  refine ⟨t₂, ?_, ht₂⟩
  change (f (x.run t).1).run (x.run t).2 = (b, t₂)
  rw [hrun₁]
  exact hrun₂

theorem repeats_bind_ok {x : ExceptT String (StateM Session) α}
    {f : α → ExceptT String (StateM Session) β} {b : β} (hx : ∀ a, r.Repeats x.run (.ok a))
    (hf : ∀ a, r.Repeats (f a).run (.ok b)) : r.Repeats (x >>= f).run (.ok b) := by
  rw [ExceptT.run_bind]
  apply repeats_bind
  intro a s s' hrun
  cases a with
  | error e => cases hrun
  | ok a => exact ⟨hx a, hf a⟩

theorem repeats_mapM {f : α → ExceptT String (StateM Session) β} (xs : List α)
    (hf : ∀ x ∈ xs, ∀ b, r.Repeats (f x).run (.ok b)) :
    ∀ bs, r.Repeats (xs.mapM f).run (.ok bs) := by
  induction xs with
  | nil =>
    intro bs s s' hrun
    cases hrun
    exact repeats_pure _ rfl
  | cons x xs ih =>
    intro bs
    rw [List.mapM_cons]
    apply repeats_bind_ok (hf x List.mem_cons_self)
    intro b
    apply repeats_bind_ok (ih fun y hy => hf y (List.mem_cons_of_mem x hy))
    intro bs' s s' hrun
    cases hrun
    exact repeats_pure _ rfl

theorem repeats_lift {x : StateM Session α} {a : α} (h : r.Repeats x a) :
    r.Repeats (ExceptT.lift x : ExceptT String (StateM Session) α).run (.ok a) := by
  intro s s' hrun
  obtain ⟨ha, rfl⟩ := Prod.mk.inj hrun
  obtain ⟨hgrows, hstep⟩ := h (Prod.ext (Except.ok.inj ha) rfl)
  refine ⟨hgrows, ?_⟩
  intro hlast
  obtain ⟨hconfined, hagain⟩ := hstep hlast
  refine ⟨hconfined, ?_⟩
  intro hinputs t ht
  obtain ⟨t', hrun', ht'⟩ := hagain hinputs ht
  refine ⟨t', ?_, ht'⟩
  change (Except.ok (x.run t).1, (x.run t).2) = _
  rw [hrun']

theorem repeats_say (line : String) (u : PUnit) : r.Repeats (Session.host.say line) u := by
  intro s s' hrun
  cases hrun
  exact ⟨.refl _, fun _ => ⟨fun _ => .inr rfl, fun _ t ht => ⟨_, rfl, ht⟩⟩⟩

theorem repeats_forM_say (lines : List α) (line : α → String) :
    ∀ u, r.Repeats (lines.forM fun a => Session.host.say (line a)) u := by
  induction lines with
  | nil => exact fun u => repeats_pure _
  | cons a lines ih =>
    intro u
    exact repeats_bind fun _ _ _ _ => ⟨repeats_say _ _, ih u⟩

theorem repeats_read (hin : r.inputs p) : r.Repeats (Session.host.read p) (.ok s) := by
  intro t t' hrun
  obtain ⟨hread, rfl⟩ := Prod.mk.inj hrun
  refine ⟨.refl _, ?_⟩
  intro hlast
  refine ⟨fun _ => .inr rfl, ?_⟩
  intro hinputs u hu
  exact ⟨u, Prod.ext (hu.read hlast (hinputs p hin) hread) rfl, hu⟩

theorem repeats_makeFolders (p : Path) : r.Repeats (Session.host.makeFolders p) (.ok ()) := by
  intro t t' hrun
  obtain ⟨hok, rfl⟩ := Prod.mk.inj hrun
  refine ⟨Disk.grows_makeAlong t.disk (t.disk.origin p) p.parts, ?_⟩
  intro hlast
  refine ⟨fun place => .inr (Disk.text?_makeAlong t.disk (t.disk.origin p) p.parts place), ?_⟩
  intro hinputs u hu
  obtain ⟨hmake, hstep⟩ := hu.makeFolders (Prod.ext hok rfl) hlast
  refine ⟨u, ?_, hstep⟩
  change ((u.disk.makeFolders p).1, { u with disk := (u.disk.makeFolders p).2 }) = _
  rw [hmake]

theorem run_write (t : Session) (p : Path) (s : String) :
    (Session.host.write p s).run t =
      match t.disk.write p s with
      | .ok d => (.ok (), { t with disk := d })
      | .error message => (.error message, t) := by
  change (let (a, disk) := (Disk.storage.write p s).run t.disk; (a, { t with disk })) = _
  cases hwrite : t.disk.write p s <;>
    simp only [Disk.storage, StateT.run, bind, StateT.bind, get, getThe, MonadStateOf.get,
      StateT.get, pure, hwrite] <;> rfl

theorem repeats_write (s : String)
    (hout : ∀ place, r.last.place? p = some place → r.outputs place) :
    r.Repeats (Session.host.write p s) (.ok ()) := by
  intro t t' hrun
  rw [run_write] at hrun
  split at hrun
  · next d hwrite =>
    obtain ⟨-, rfl⟩ := Prod.mk.inj hrun
    refine ⟨Disk.grows_write hwrite, ?_⟩
    intro hlast
    refine ⟨confined_write hwrite hlast hout, ?_⟩
    intro hinputs u hu
    obtain ⟨e, hagain, hstep⟩ := hu.write hwrite hlast
    refine ⟨{ u with disk := e }, ?_, hstep⟩
    rw [run_write, hagain]
  · cases hrun

end Trail

end Criteria
