import Criteria.Resolver
import Mathlib.Data.List.Nodup
import Mathlib.Data.Set.Card

namespace Criteria

namespace ResolverGate

/-- What can be done with a gate. Tickets may be presented at any time, and again. -/
inductive Action where
  | begin (field : String)
  | accept (ticket : Ticket)
  | cancel (field : String)
  | cancelAll
  deriving DecidableEq

/-- The field that an action is about, if it is about one. -/
def Action.field? : Action → Option String
  | begin field | cancel field => some field
  | accept ticket => some ticket.field
  | cancelAll => none

/-- What has been done with a gate. -/
inductive Event where
  | begun (ticket : Ticket)
  | presented (ticket : Ticket)
  | cancelled (field : String)
  | allCancelled
  deriving DecidableEq

def perform (g : ResolverGate) : Action → ResolverGate
  | .begin field => (g.begin field).2
  | .accept ticket => (g.accept ticket ()).2
  | .cancel field => g.cancel field
  | .cancelAll => g.cancelAll

/-- An action as it is seen from outside; a lookup that is begun shows its ticket. -/
def event (g : ResolverGate) : Action → Event
  | .begin field => .begun (g.begin field).1
  | .accept ticket => .presented ticket
  | .cancel field => .cancelled field
  | .cancelAll => .allCancelled

def run (g : ResolverGate) (actions : List Action) : ResolverGate := actions.foldl perform g

/-- All that is seen of some actions. -/
def events (g : ResolverGate) : List Action → List Event
  | [] => []
  | a :: actions => g.event a :: (g.perform a).events actions

/-- Whether a ticket does not count any longer after an event. -/
def Event.Ends (t : Ticket) : Event → Prop
  | begun u => u.field = t.field
  | presented u => u = t
  | cancelled field => field = t.field
  | allCancelled => True

instance (t : Ticket) : (e : Event) → Decidable (e.Ends t)
  | .begun u => inferInstanceAs (Decidable (u.field = t.field))
  | .presented u => inferInstanceAs (Decidable (u = t))
  | .cancelled field => inferInstanceAs (Decidable (field = t.field))
  | .allCancelled => inferInstanceAs (Decidable True)

/-- The ticket was given out by the last lookup begun for its field, and since then it has not been
presented, nor has its lookup been dropped. -/
def Counts (events : List Event) (t : Ticket) : Prop :=
  ∃ before after, events = before ++ .begun t :: after ∧ ∀ e ∈ after, ¬ e.Ends t

variable {g : ResolverGate} {es : List Event} {t u : Ticket}

theorem not_counts_nil (t : Ticket) : ¬ Counts [] t := by
  rintro ⟨before, after, h, -⟩
  exact List.append_ne_nil_of_right_ne_nil before (List.cons_ne_nil _ after) h.symm

theorem counts_concat {e : Event} :
    Counts (es ++ [e]) t ↔ e = .begun t ∨ Counts es t ∧ ¬ e.Ends t := by
  constructor
  · rintro ⟨before, after, h, hafter⟩
    induction after using List.reverseRecOn with
    | nil =>
      obtain ⟨-, hlast⟩ := List.append_inj' h rfl
      left
      exact List.head_eq_of_cons_eq hlast
    | append_singleton after last _ =>
      rw [← List.cons_append, ← List.append_assoc] at h
      obtain ⟨hes, hlast⟩ := List.append_inj' h rfl
      rw [List.forall_mem_append, List.forall_mem_singleton] at hafter
      right
      rw [List.head_eq_of_cons_eq hlast]
      exact ⟨⟨before, after, hes, hafter.1⟩, hafter.2⟩
  · rintro (rfl | ⟨⟨before, after, rfl, hafter⟩, he⟩)
    · exact ⟨es, [], rfl, fun e he => absurd he List.not_mem_nil⟩
    · refine ⟨before, after ++ [e], by simp, ?_⟩
      rw [List.forall_mem_append, List.forall_mem_singleton]
      exact ⟨hafter, he⟩

/-- The gate holds the tickets that count, no two of them for one field, and gives out new ones. -/
structure Follows (g : ResolverGate) (es : List Event) : Prop where
  counts : ∀ t, t ∈ g.inFlight ↔ Counts es t
  nodup : (g.inFlight.map (·.field)).Nodup
  issued : ∀ t, .begun t ∈ es → t.generation ≤ g.issued

theorem isCurrent_iff : g.isCurrent t = true ↔ t ∈ g.inFlight := List.contains_iff_mem

theorem mem_cancel {field : String} :
    t ∈ (g.cancel field).inFlight ↔ t ∈ g.inFlight ∧ t.field ≠ field := by
  rw [cancel, List.mem_filter, decide_eq_true_eq]

theorem mem_begin {field : String} :
    t ∈ (g.begin field).2.inFlight ↔
      t = (g.begin field).1 ∨ t ∈ g.inFlight ∧ t.field ≠ field := by
  rw [begin, List.mem_cons, List.mem_filter, decide_eq_true_eq]

theorem Follows.accept_of_counts (h : g.Follows es) (ht : Counts es t) {α : Type} (result : α) :
    g.accept t result = (some result, g.cancel t.field) := by
  rw [accept, if_pos (isCurrent_iff.2 ((h.counts t).2 ht))]

theorem Follows.accept_of_not_counts (h : g.Follows es) (ht : ¬ Counts es t) {α : Type}
    (result : α) : g.accept t result = (none, g) := by
  rw [accept, if_neg]
  rw [isCurrent_iff, h.counts]
  exact ht

/-- At most one ticket of a field counts. -/
theorem Follows.unique (h : g.Follows es) (ht : Counts es t) (hu : Counts es u)
    (hfield : t.field = u.field) : t = u := by
  rw [← h.counts] at ht hu
  exact List.inj_on_of_nodup_map h.nodup ht hu hfield

theorem nodup_cancel (h : (g.inFlight.map (·.field)).Nodup) (field : String) :
    ((g.cancel field).inFlight.map (·.field)).Nodup :=
  h.sublist (List.filter_sublist.map _)

theorem follows_empty : empty.Follows [] where
  counts t := by
    constructor
    · intro h
      cases h
    · intro h
      exact absurd h (not_counts_nil t)
  nodup := List.nodup_nil
  issued t h := by cases h

theorem Follows.begin (h : g.Follows es) (field : String) :
    (g.begin field).2.Follows (es ++ [.begun (g.begin field).1]) where
  counts t := by
    rw [mem_begin, counts_concat, h.counts]
    apply or_congr
    · rw [Event.begun.injEq, eq_comm]
    · apply and_congr_right
      intro _
      exact not_congr eq_comm
  nodup := by
    have hrest := nodup_cancel h.nodup field
    refine List.nodup_cons.2 ⟨?_, hrest⟩
    intro hmem
    obtain ⟨t, ht, hfield⟩ := List.mem_map.1 hmem
    exact (mem_cancel.1 ht).2 hfield
  issued t ht := by
    rcases List.mem_append.1 ht with ht | ht
    · exact Nat.le_succ_of_le (h.issued t ht)
    · cases List.mem_singleton.1 ht
      exact Nat.le_refl _

theorem Follows.drop (h : g.Follows es) {g' : ResolverGate} {e : Event}
    (hmem : ∀ t, t ∈ g'.inFlight ↔ Counts es t ∧ ¬ e.Ends t)
    (hnodup : (g'.inFlight.map (·.field)).Nodup) (hissued : g'.issued = g.issued)
    (he : ∀ t, e ≠ .begun t) : g'.Follows (es ++ [e]) where
  counts t := by
    rw [hmem, counts_concat, or_iff_right (he t)]
  nodup := hnodup
  issued t ht := by
    rw [hissued]
    rcases List.mem_append.1 ht with ht | ht
    · exact h.issued t ht
    · exact absurd (List.mem_singleton.1 ht).symm (he t)

theorem Follows.cancel (h : g.Follows es) (field : String) :
    (g.cancel field).Follows (es ++ [.cancelled field]) := by
  apply h.drop _ (nodup_cancel h.nodup field) rfl (fun t => Event.noConfusion)
  intro t
  rw [mem_cancel, h.counts]
  apply and_congr_right
  intro _
  exact not_congr eq_comm

theorem Follows.cancelAll (h : g.Follows es) : g.cancelAll.Follows (es ++ [.allCancelled]) := by
  have hmem : ∀ t, t ∈ g.cancelAll.inFlight ↔ Counts es t ∧ ¬ Event.allCancelled.Ends t := by
    intro t
    constructor
    · intro ht
      cases ht
    · rintro ⟨-, ht⟩
      exact absurd trivial ht
  exact h.drop hmem List.nodup_nil rfl (fun t => Event.noConfusion)

theorem Follows.accept (h : g.Follows es) (t : Ticket) :
    (g.accept t ()).2.Follows (es ++ [.presented t]) := by
  by_cases ht : Counts es t
  · rw [h.accept_of_counts ht]
    apply h.drop _ (nodup_cancel h.nodup t.field) rfl (fun t => Event.noConfusion)
    intro u
    rw [mem_cancel, h.counts]
    apply and_congr_right
    intro hu
    -- The ticket that is presented is the only one of its field, so no other goes with it.
    apply not_congr
    constructor
    · intro hfield
      exact h.unique ht hu hfield.symm
    · rintro rfl
      rfl
  · rw [h.accept_of_not_counts ht]
    apply h.drop _ h.nodup rfl (fun t => Event.noConfusion)
    intro u
    rw [h.counts, iff_self_and]
    rintro hu rfl
    exact ht hu

theorem Follows.perform (h : g.Follows es) (a : Action) :
    (g.perform a).Follows (es ++ [g.event a]) := by
  cases a with
  | begin field => exact h.begin field
  | accept ticket => exact h.accept ticket
  | cancel field => exact h.cancel field
  | cancelAll => exact h.cancelAll

theorem Follows.run (h : g.Follows es) (actions : List Action) :
    (g.run actions).Follows (es ++ g.events actions) := by
  induction actions generalizing g es with
  | nil =>
    rw [events, List.append_nil]
    exact h
  | cons a actions ih =>
    rw [events, List.append_cons]
    exact ih (h.perform a)

theorem Follows.counts_perform (h : g.Follows es) (ht : .begun t ∈ es) (a : Action)
    (hc : Counts (es ++ [g.event a]) t) : Counts es t := by
  rcases counts_concat.1 hc with he | ⟨hcounts, -⟩
  · have hlast := h.issued t ht
    cases a with
    | begin field =>
      cases he
      exact absurd hlast (Nat.not_succ_le_self g.issued)
    | accept | cancel | cancelAll => cases he
  · exact hcounts

/-- A ticket that has been given out and does not count will not count any more. -/
theorem Follows.stale (h : g.Follows es) (ht : .begun t ∈ es) (hs : ¬ Counts es t)
    (actions : List Action) : ¬ Counts (es ++ g.events actions) t := by
  induction actions generalizing g es with
  | nil =>
    rw [events, List.append_nil]
    exact hs
  | cons a actions ih =>
    rw [events, List.append_cons]
    apply ih (h.perform a) (List.mem_append_left _ ht)
    intro hc
    exact hs (h.counts_perform ht a hc)

theorem isCurrent_perform {a : Action} {field : String} (ha : a.field? = some field)
    (ht : t.field ≠ field) : (g.perform a).isCurrent t = g.isCurrent t := by
  rw [Bool.eq_iff_iff, isCurrent_iff, isCurrent_iff]
  cases a with
  | begin f =>
    cases ha
    rw [perform, mem_begin, and_iff_left ht, or_iff_right]
    rintro rfl
    exact ht rfl
  | accept u =>
    cases ha
    rw [perform, accept]
    split
    · rw [mem_cancel, and_iff_left ht]
    · rfl
  | cancel f =>
    cases ha
    rw [perform, mem_cancel, and_iff_left ht]
  | cancelAll => cases ha

theorem Follows.pending (h : g.Follows es) :
    g.pending = {field | ∃ t, t.field = field ∧ Counts es t}.ncard := by
  have hset : {field | ∃ t, t.field = field ∧ Counts es t}
      = ((g.inFlight.map (·.field)).toFinset : Set String) := by
    ext field
    simp only [Set.mem_ofPred_eq, List.coe_toFinset, List.mem_map, h.counts, and_comm]
  rw [hset, Set.ncard_coe_finset, List.toFinset_card_of_nodup h.nodup, List.length_map]
  rfl

end ResolverGate

open ResolverGate in
/-- Whatever has been done with a gate, it hands a result back just if the ticket counts, and else
stays as it is. A ticket that was given out and does not count never counts again; what is done for
one field leaves the tickets of others alone; and as many lookups are under way as there are fields
with a ticket that counts. -/
theorem result_accepted_iff_counts (actions : List ResolverGate.Action) :
    let g := ResolverGate.empty.run actions
    let es := ResolverGate.empty.events actions
    (∀ (t : Ticket) {α : Type} (result : α),
      ((g.accept t result).1 = some result ↔ Counts es t) ∧
      (¬ Counts es t → g.accept t result = (none, g))) ∧
    (∀ t, .begun t ∈ es → ¬ Counts es t → ∀ later, ¬ Counts (es ++ g.events later) t) ∧
    (∀ a field, a.field? = some field → ∀ t, t.field ≠ field →
      (g.perform a).isCurrent t = g.isCurrent t) ∧
    g.pending = {field | ∃ t, t.field = field ∧ Counts es t}.ncard := by
  intro g es
  have h : g.Follows es := follows_empty.run actions
  refine ⟨?_, ?_, ?_, h.pending⟩
  · intro t α result
    refine ⟨?_, fun ht => h.accept_of_not_counts ht result⟩
    by_cases ht : Counts es t
    · rw [h.accept_of_counts ht]
      exact iff_of_true rfl ht
    · rw [h.accept_of_not_counts ht]
      exact iff_of_false (Option.some_ne_none result).symm ht
  · intro t ht hs later
    exact h.stale ht hs later
  · intro a field ha t ht
    exact isCurrent_perform ha ht

open ResolverGate in
/-- A field is looked up again before its first result is there, and another field is given up. -/
theorem result_accepted_iff_counts_superseded :
    let actions : List Action :=
      [.begin "status", .begin "country", .begin "status", .cancel "country"]
    let g := ResolverGate.empty.run actions
    let es := ResolverGate.empty.events actions
    (g.accept ⟨"status", 3⟩ "new").1 = some "new" ∧ g.accept ⟨"status", 1⟩ "old" = (none, g) ∧
      (∀ later, ¬ Counts (es ++ g.events later) ⟨"status", 1⟩) ∧ g.pending = 1 := by
  intro actions g es
  obtain ⟨haccept, hstale, -, -⟩ := result_accepted_iff_counts actions
  have hnew : Counts es ⟨"status", 3⟩ := by
    exact ⟨[.begun ⟨"status", 1⟩, .begun ⟨"country", 2⟩], [.cancelled "country"], rfl, by decide⟩
  have hold : ¬ Counts es ⟨"status", 1⟩ := by
    intro hc
    have hresult := (haccept ⟨"status", 1⟩ "old").1.2 hc
    exact absurd hresult (by decide)
  have hbegun : Event.begun ⟨"status", 1⟩ ∈ es := List.mem_cons_self
  exact ⟨(haccept ⟨"status", 3⟩ "new").1.2 hnew, (haccept ⟨"status", 1⟩ "old").2 hold,
    hstale ⟨"status", 1⟩ hbegun hold, rfl⟩

end Criteria
