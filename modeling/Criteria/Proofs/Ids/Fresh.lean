import Criteria.Proofs.Ids
import Criteria.Proofs.Ids.Counter

namespace Criteria

namespace IdSource

variable {s : IdSource} {t : Tree} {id : String} {n k : Nat}

theorem foldl_max_le_iff (ns : List Nat) : ns.foldl max n ≤ k ↔ n ≤ k ∧ ∀ m ∈ ns, m ≤ k := by
  induction ns generalizing n with
  | nil => simp
  | cons m ns ih => rw [List.foldl_cons, ih, max_le_iff, List.forall_mem_cons, and_assoc]

/-- Passing a tree takes the counter as far as the ids with this seed need, and no further. -/
theorem count_observe_le_iff : (s.observe t).count ≤ k ↔
    s.count ≤ k ∧ ∀ id ∈ t.ids, ∀ n < period, s.Carries id n → n ≤ k := by
  rw [observe, foldl_max_le_iff]
  simp only [List.forall_mem_filterMap, counterOf?_eq_some, and_imp]

theorem le_count_observe (hid : id ∈ t.ids) (hn : n < period) (h : s.Carries id n) :
    n ≤ (s.observe t).count :=
  (count_observe_le_iff.1 (Nat.le_refl _)).2 id hid n hn h

theorem count_le_observe (s : IdSource) (t : Tree) : s.count ≤ (s.observe t).count :=
  (count_observe_le_iff.1 (Nat.le_refl _)).1

theorem count_observe_lt (h : s.count < period) : (s.observe t).count < period := by
  refine Nat.lt_of_le_pred (Nat.zero_lt_of_lt h) (count_observe_le_iff.2 ⟨Nat.le_pred_of_lt h, ?_⟩)
  exact fun _ _ n hn _ => Nat.le_pred_of_lt hn

theorem idAt_not_mem (hn : n < period) (h : (s.observe t).count < n) : s.idAt n ∉ t.ids := by
  intro hmem
  exact absurd h (Nat.not_lt_of_le (le_count_observe hmem hn (s.carries_idAt n)))

theorem observe_observe (s : IdSource) (t : Tree) : (s.observe t).observe t = s.observe t := by
  have hle : ((s.observe t).observe t).count ≤ (s.observe t).count :=
    count_observe_le_iff.2 ⟨Nat.le_refl _, fun _ hid _ hn h => le_count_observe (s := s) hid hn h⟩
  have hcount := Nat.le_antisymm hle ((s.observe t).count_le_observe t)
  exact congrArg (IdSource.mk s.seed) hcount

theorem nodup_draws_iff : ((List.range k).map s.draw).Nodup ↔ k ≤ period := by
  refine ⟨fun hd => ?_, nodup_draws⟩
  by_contra hk
  have hlt : period < k := Nat.lt_of_not_le hk
  have hpos : 0 < period := Nat.pow_pos (Nat.zero_lt_two)
  have hdraw : s.draw period = s.draw 0 := by
    rw [draw_eq, draw_eq, Nat.add_right_comm, Nat.add_mod_right, Nat.add_zero]
  have heq : period = 0 := List.inj_on_of_nodup_map hd (List.mem_range.2 hlt)
    (List.mem_range.2 (Nat.zero_lt_of_lt hlt)) hdraw
  exact absurd heq (Nat.ne_of_gt hpos)

/-- The first draw that can give an id of a tree that has been passed is the one a whole period
after the counter of the id. -/
theorem draws_not_mem_iff (hcount : s.count < period) (hpassed : s.observe t = s) :
    (∀ j < k, s.draw j ∉ t.ids) ↔
      ∀ n < period, s.idAt n ∈ t.ids → s.count + k < n + period := by
  have hle : ∀ n < period, s.idAt n ∈ t.ids → n ≤ s.count := by
    intro n hn hmem
    have hle := le_count_observe hmem hn (s.carries_idAt n)
    rwa [hpassed] at hle
  constructor
  · intro hfresh n hn hmem
    have hn' := hle n hn hmem
    by_contra hk
    apply hfresh (n + period - s.count - 1) (by omega)
    have hsum : s.count + (n + period - s.count - 1) + 1 = n + period := by omega
    rwa [draw_eq, hsum, Nat.add_mod_right, Nat.mod_eq_of_lt hn]
  · intro hroom j hj hmem
    rw [draw_eq] at hmem
    have hlt : (s.count + j + 1) % period < period := Nat.mod_lt _ (Nat.zero_lt_of_lt hcount)
    have hbefore := hle _ hlt hmem
    have hspace := hroom _ hlt hmem
    have hdiv := Nat.div_add_mod (s.count + j + 1) period
    rcases Nat.eq_zero_or_pos ((s.count + j + 1) / period) with hzero | hpos
    · rw [hzero, Nat.mul_zero, Nat.zero_add] at hdiv
      omega
    · have hperiod := Nat.le_mul_of_pos_right period hpos
      omega

/-- What a source is used for. -/
inductive Use where
  | draw
  | observe (t : Tree)

def use (s : IdSource) : Use → IdSource
  | .draw => s.next.2
  | .observe t => s.observe t

def run (s : IdSource) (uses : List Use) : IdSource := uses.foldl use s

/-- The ids that are drawn in a run. -/
def drawn (s : IdSource) : List Use → List String
  | [] => []
  | .draw :: uses => s.next.1 :: s.next.2.drawn uses
  | .observe t :: uses => (s.observe t).drawn uses

/-- The counter that a run would lead to if counters had no end. -/
def demand (s : IdSource) : List Use → Nat
  | [] => s.count
  | .draw :: uses => demand { s with count := s.count + 1 } uses
  | .observe t :: uses => (s.observe t).demand uses

variable {uses : List Use}

theorem count_le_demand (s : IdSource) (uses : List Use) : s.count ≤ s.demand uses := by
  induction uses generalizing s with
  | nil => exact Nat.le_refl _
  | cons u uses ih =>
    cases u with
    | draw => exact Nat.le_of_succ_le (ih { s with count := s.count + 1 })
    | observe t => exact (s.count_le_observe t).trans (ih (s.observe t))

theorem next_of_lt (h : s.count + 1 < period) :
    s.next = (s.idAt (s.count + 1), { s with count := s.count + 1 }) := by
  rw [next, Nat.mod_eq_of_lt h]

theorem next_of_demand (h : s.demand (.draw :: uses) < period) :
    s.next = (s.idAt (s.count + 1), { s with count := s.count + 1 }) :=
  next_of_lt (Nat.lt_of_le_of_lt (count_le_demand { s with count := s.count + 1 } uses) h)

theorem run_draw (h : s.demand (.draw :: uses) < period) (more : List Use) :
    s.run (.draw :: more) = run { s with count := s.count + 1 } more := by
  rw [run, List.foldl_cons, use, next_of_demand h]
  rfl

theorem run_of_demand (h : s.demand uses < period) :
    s.run uses = { s with count := s.demand uses } := by
  induction uses generalizing s with
  | nil => rfl
  | cons u uses ih =>
    cases u with
    | draw =>
      rw [run_draw h]
      exact ih h
    | observe t => exact ih h

theorem count_run_lt (h : s.count < period) (uses : List Use) : (s.run uses).count < period := by
  induction uses generalizing s with
  | nil => exact h
  | cons u uses ih =>
    cases u with
    | draw => exact ih (Nat.mod_lt _ (Nat.zero_lt_of_lt h))
    | observe t => exact ih (count_observe_lt h)

theorem count_run_eq_iff (h : s.count < period) :
    (s.run uses).count = s.demand uses ↔ s.demand uses < period := by
  constructor
  · intro heq
    exact heq ▸ count_run_lt h uses
  · intro hlt
    rw [run_of_demand hlt]

theorem demand_append {before later : List Use} (h : s.demand (before ++ later) < period) :
    s.demand (before ++ later) = (s.run before).demand later := by
  induction before generalizing s with
  | nil => rfl
  | cons u before ih =>
    cases u with
    | draw =>
      rw [run_draw h]
      exact ih h
    | observe t => exact ih h

theorem exists_of_mem_drawn (h : s.demand uses < period) (hid : id ∈ s.drawn uses) :
    ∃ n, s.count < n ∧ n ≤ s.demand uses ∧ id = s.idAt n := by
  induction uses generalizing s with
  | nil => cases hid
  | cons u uses ih =>
    cases u with
    | draw =>
      rw [drawn, next_of_demand h] at hid
      rcases List.mem_cons.1 hid with rfl | hid
      · exact ⟨s.count + 1, Nat.lt_succ_self _,
          count_le_demand { s with count := s.count + 1 } uses, rfl⟩
      · obtain ⟨n, hlt, hle, rfl⟩ := ih h hid
        exact ⟨n, Nat.lt_of_succ_lt hlt, hle, rfl⟩
    | observe t =>
      obtain ⟨n, hlt, hle, rfl⟩ := ih h hid
      exact ⟨n, Nat.lt_of_le_of_lt (s.count_le_observe t) hlt, hle, rfl⟩

theorem nodup_drawn (h : s.demand uses < period) : (s.drawn uses).Nodup := by
  induction uses generalizing s with
  | nil => exact List.nodup_nil
  | cons u uses ih =>
    cases u with
    | draw =>
      rw [drawn, next_of_demand h]
      refine List.nodup_cons.2 ⟨?_, ih h⟩
      intro hmem
      obtain ⟨n, hlt, -, heq⟩ :=
        exists_of_mem_drawn (s := { s with count := s.count + 1 }) h hmem
      exact Nat.ne_of_lt hlt (idAt_inj heq)
    | observe t => exact ih h

theorem not_mem_of_mem_drawn (h : (s.observe t).demand uses < period)
    (hid : id ∈ (s.observe t).drawn uses) : id ∉ t.ids := by
  obtain ⟨n, hlt, hle, rfl⟩ := exists_of_mem_drawn h hid
  exact idAt_not_mem (s := s) (Nat.lt_of_le_of_lt hle h) hlt

end IdSource

open IdSource (period)

/-- A source that has passed a tree starts at the highest number that an id of the tree carries.
Within a period of draws no id comes out twice. None of some draws is an id of the tree just if they
end before the counter, having started over, comes back to the number of one. In a run that passes
further trees the counter starts over just if the numbers needed reach the period; up to there, all
that is drawn is different, and not in any of the trees passed before. -/
theorem drawn_ids_fresh_iff (space : String) (t : Tree) :
    let s := IdSource.forTree space t
    (∀ k, s.count ≤ k ↔ ∀ id ∈ t.ids, ∀ n < period, s.Carries id n → n ≤ k) ∧
      (∀ k, (((List.range k).map s.draw).Nodup ↔ k ≤ period) ∧
        ((∀ j < k, s.draw j ∉ t.ids) ↔
          ∀ n < period, s.idAt n ∈ t.ids → s.count + k < n + period)) ∧
      ∀ uses, ((s.run uses).count = s.demand uses ↔ s.demand uses < period) ∧
        (s.demand uses < period → (s.drawn uses).Nodup ∧ (∀ id ∈ s.drawn uses, id ∉ t.ids) ∧
          ∀ before t' later, uses = before ++ .observe t' :: later →
            ∀ id ∈ ((s.run before).observe t').drawn later, id ∉ t'.ids) := by
  intro s
  have hlt : s.count < period := IdSource.count_observe_lt (Nat.pow_pos Nat.zero_lt_two)
  refine ⟨?_, ?_, ?_⟩
  · intro k
    exact IdSource.count_observe_le_iff.trans (and_iff_right (Nat.zero_le k))
  · intro k
    exact ⟨IdSource.nodup_draws_iff, IdSource.draws_not_mem_iff hlt (IdSource.observe_observe _ t)⟩
  · intro uses
    refine ⟨IdSource.count_run_eq_iff hlt, fun hroom => ⟨IdSource.nodup_drawn hroom, ?_, ?_⟩⟩
    · exact fun id hid => IdSource.not_mem_of_mem_drawn hroom hid
    · rintro before t' later rfl id hid
      rw [IdSource.demand_append hroom] at hroom
      exact IdSource.not_mem_of_mem_drawn hroom hid

/-- Ids with zeros, with a plus sign and with a number beyond the counter, and a further tree that is
passed between two draws. -/
theorem drawn_ids_fresh_iff_signed :
    let k (id : String) (children : List Node) : Group := ⟨⟨id, .and, false, none⟩, children⟩
    let leaf (id : String) : Node := .condition ⟨id, "x", .isEmpty, .null, none⟩
    let t : Tree := k "r" [leaf "fabd65e8-007", leaf "fabd65e8-+9",
      leaf "fabd65e8-18446744073709551616"]
    let t' : Tree := k "fabd65e8-+00040" []
    let s : IdSource := .forTree IdSource.defaultNamespace t
    s.demand [.draw, .observe t', .draw] < period ∧
      s.drawn [.draw, .observe t', .draw] = ["fabd65e8-10", "fabd65e8-41"] ∧
      (s.drawn [.draw, .observe t', .draw]).Nodup ∧ "fabd65e8-41" ∉ t.ids ∧
      "fabd65e8-41" ∉ t'.ids := by
  intro k leaf t t' s
  have hroom : s.demand [.draw, .observe t', .draw] < period := by decide +kernel
  have hdrawn : s.drawn [.draw, .observe t', .draw] = ["fabd65e8-10", "fabd65e8-41"] := by
    decide +kernel
  have hlater : ((s.run [.draw]).observe t').drawn [.draw] = ["fabd65e8-41"] := by decide +kernel
  obtain ⟨hnodup, hfresh, hpassed⟩ :=
    ((drawn_ids_fresh_iff IdSource.defaultNamespace t).2.2 [.draw, .observe t', .draw]).2 hroom
  refine ⟨hroom, hdrawn, hnodup, hfresh _ (hdrawn ▸ by simp), ?_⟩
  exact hpassed [.draw] t' [.draw] rfl _ (hlater ▸ by simp)

/-- A tree that holds both the first and the last id of a source. The counter starts over, and the
second draw is an id of the tree. -/
theorem passed_id_drawn :
    let leaf (id : String) : Node := .condition ⟨id, "x", .isEmpty, .null, none⟩
    let t : Tree := ⟨⟨"r", .and, false, none⟩,
      [leaf "fabd65e8-1", leaf "fabd65e8-18446744073709551615"]⟩
    let s : IdSource := .forTree IdSource.defaultNamespace t
    (s.issued 1).count < s.count ∧ s.draw 1 ∈ t.ids := by
  intro leaf t s
  exact ⟨by decide +kernel, by decide +kernel⟩

end Criteria
