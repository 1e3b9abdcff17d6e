import Criteria.Proofs.Json.Draft
import Criteria.Proofs.Json.Numeral
import Criteria.Proofs.Json.Quoted

namespace Criteria.Json

/-- The blanks of a writer: at the start of a line, and between a key and its value. -/
structure Blanks where
  line : Nat → List Char
  gap : List Char
  line_blank : ∀ level, ∀ c ∈ line level, Scan.isBlank c = true
  gap_blank : ∀ c ∈ gap, Scan.isBlank c = true

namespace Blanks

def none : Blanks where
  line _ := []
  gap := []
  line_blank _ _ h := absurd h List.not_mem_nil
  gap_blank _ h := absurd h List.not_mem_nil

def indent : Blanks where
  line := newline
  gap := [' ']
  line_blank level c h := by
    rcases List.mem_cons.1 h with rfl | h
    · rfl
    · rw [List.eq_of_mem_replicate h]
      rfl
  gap_blank c h := by
    rw [List.mem_singleton.1 h]
    rfl

end Blanks

mutual

/-- The value as text with blanks. -/
def spaced (b : Blanks) (level : Nat) : Json → List Char
  | .null => ['n', 'u', 'l', 'l']
  | .bool true => ['t', 'r', 'u', 'e']
  | .bool false => ['f', 'a', 'l', 's', 'e']
  | .number n => n.chars
  | .text s => quoted s
  | .list [] => ['[', ']']
  | .list (j :: js) =>
    '[' :: (b.line (level + 1) ++ (spaced b (level + 1) j ++ spacedItems b level js))
  | .object [] => ['{', '}']
  | .object ((key, j) :: ms) =>
    '{' :: (b.line (level + 1) ++ (quoted key
      ++ ':' :: (b.gap ++ (spaced b (level + 1) j ++ spacedMembers b level ms))))

def spacedItems (b : Blanks) (level : Nat) : List Json → List Char
  | [] => b.line level ++ [']']
  | j :: js => ',' :: (b.line (level + 1) ++ (spaced b (level + 1) j ++ spacedItems b level js))

def spacedMembers (b : Blanks) (level : Nat) : List (String × Json) → List Char
  | [] => b.line level ++ ['}']
  | (key, j) :: ms =>
    ',' :: (b.line (level + 1) ++ (quoted key
      ++ ':' :: (b.gap ++ (spaced b (level + 1) j ++ spacedMembers b level ms))))

end

mutual

theorem compact_eq_spaced (level : Nat) : ∀ j : Json, j.compact = j.spaced .none level
  | .null | .bool true | .bool false | .number _ | .text _ | .list [] | .object [] => rfl
  | .list (j :: js) => by
    rw [compact, spaced, compact_eq_spaced (level + 1) j, compactItems_eq_spaced level js]
    rfl
  | .object ((key, j) :: ms) => by
    rw [compact, spaced, compact_eq_spaced (level + 1) j, compactMembers_eq_spaced level ms]
    simp [Blanks.none]

theorem compactItems_eq_spaced (level : Nat) :
    ∀ js : List Json, compactItems js = spacedItems .none level js
  | [] => rfl
  | j :: js => by
    rw [compactItems, spacedItems, compact_eq_spaced (level + 1) j, compactItems_eq_spaced level js]
    rfl

theorem compactMembers_eq_spaced (level : Nat) :
    ∀ ms : List (String × Json), compactMembers ms = spacedMembers .none level ms
  | [] => rfl
  | (key, j) :: ms => by
    rw [compactMembers, spacedMembers, compact_eq_spaced (level + 1) j,
      compactMembers_eq_spaced level ms]
    simp [Blanks.none]

end

mutual

theorem indented_eq_spaced (level : Nat) : ∀ j : Json, j.indented level = j.spaced .indent level
  | .null | .bool true | .bool false | .number _ | .text _ | .list [] | .object [] => rfl
  | .list (j :: js) => by
    rw [indented, spaced, indented_eq_spaced (level + 1) j, indentedItems_eq_spaced level js]
    simp [Blanks.indent]
  | .object ((key, j) :: ms) => by
    rw [indented, spaced, indented_eq_spaced (level + 1) j, indentedMembers_eq_spaced level ms]
    simp [Blanks.indent]

theorem indentedItems_eq_spaced (level : Nat) :
    ∀ js : List Json, indentedItems level js = spacedItems .indent level js
  | [] => rfl
  | j :: js => by
    rw [indentedItems, spacedItems, indented_eq_spaced (level + 1) j,
      indentedItems_eq_spaced level js]
    simp [Blanks.indent]

theorem indentedMembers_eq_spaced (level : Nat) :
    ∀ ms : List (String × Json), indentedMembers level ms = spacedMembers .indent level ms
  | [] => rfl
  | (key, j) :: ms => by
    rw [indentedMembers, spacedMembers, indented_eq_spaced (level + 1) j,
      indentedMembers_eq_spaced level ms]
    simp [Blanks.indent]

end

namespace Scan

theorem skipBlanks_append {w : List Char} (hw : ∀ c ∈ w, isBlank c = true) (cs : List Char) :
    skipBlanks (w ++ cs) = skipBlanks cs :=
  List.dropWhile_append_of_pos hw

theorem skipBlanks_cons {c : Char} (hc : isBlank c = false) (cs : List Char) :
    skipBlanks (c :: cs) = c :: cs :=
  List.dropWhile_cons_of_neg (by simp [hc])

theorem value_blanks {w : List Char} (hw : ∀ c ∈ w, isBlank c = true) (fuel : Nat)
    (cs : List Char) : value fuel (w ++ cs) = value fuel cs := by
  cases fuel with
  | zero => rfl
  | succ fuel => rw [value, value, skipBlanks_append hw]

theorem items_blanks {w : List Char} (hw : ∀ c ∈ w, isBlank c = true) (fuel : Nat)
    (cs : List Char) : items fuel (w ++ cs) = items fuel cs := by
  cases fuel with
  | zero => rfl
  | succ fuel => rw [items, items, value_blanks hw]

theorem members_blanks {w : List Char} (hw : ∀ c ∈ w, isBlank c = true) (fuel : Nat)
    (cs : List Char) : members fuel (w ++ cs) = members fuel cs := by
  cases fuel with
  | zero => rfl
  | succ fuel => rw [members, members, skipBlanks_append hw]

theorem endsNumeral_cons {c : Char} (h : Spelling.digit? c = none ∧ c ≠ '.' ∧ c ≠ 'e' ∧ c ≠ 'E')
    (cs : List Char) : EndsNumeral (c :: cs) := by
  intro d hd
  cases hd
  exact h

theorem endsNumeral_blank {c : Char} (h : isBlank c = true) :
    Spelling.digit? c = none ∧ c ≠ '.' ∧ c ≠ 'e' ∧ c ≠ 'E' := by
  simp only [isBlank, Bool.or_eq_true, decide_eq_true_eq] at h
  rcases h with ((rfl | rfl) | rfl) | rfl <;> decide

theorem endsNumeral_append {w : List Char} (hw : ∀ c ∈ w, isBlank c = true) {cs : List Char}
    (h : EndsNumeral cs) : EndsNumeral (w ++ cs) := by
  cases w with
  | nil => exact h
  | cons c w => exact endsNumeral_cons (endsNumeral_blank (hw c List.mem_cons_self)) _

theorem endsNumeral_items (b : Blanks) (level : Nat) (js : List Json) (rest : List Char) :
    EndsNumeral (spacedItems b level js ++ rest) := by
  cases js with
  | nil =>
    rw [spacedItems, List.append_assoc]
    exact endsNumeral_append (b.line_blank level) (endsNumeral_cons (by decide) _)
  | cons j js => exact endsNumeral_cons (by decide) _

theorem endsNumeral_members (b : Blanks) (level : Nat) (ms : List (String × Json))
    (rest : List Char) : EndsNumeral (spacedMembers b level ms ++ rest) := by
  cases ms with
  | nil =>
    rw [spacedMembers, List.append_assoc]
    exact endsNumeral_append (b.line_blank level) (endsNumeral_cons (by decide) _)
  | cons m ms => exact endsNumeral_cons (by decide) _

/-- The text of the value is read as a whole at every level, whatever follows it. -/
def Reads (b : Blanks) (j : Json) : Prop :=
  ∀ level fuel rest, 2 * (j.spaced b level).length ≤ fuel → EndsNumeral rest →
    value fuel (j.spaced b level ++ rest) = (Draft.readBy Numeral.reread? j, some rest)

theorem items_spaced {b : Blanks} {j : Json} {js : List Json} (hj : Reads b j)
    (hjs : ∀ k ∈ js, Reads b k) (level fuel : Nat) (rest : List Char)
    (hfuel : 2 * ((j.spaced b (level + 1)).length + (spacedItems b level js).length) < fuel) :
    items fuel (j.spaced b (level + 1) ++ (spacedItems b level js ++ rest))
      = (Draft.readByItems Numeral.reread? (j :: js), none, some rest) := by
  induction js generalizing j fuel with
  | nil =>
    obtain ⟨fuel, rfl⟩ := Nat.exists_eq_succ_of_ne_zero (Nat.ne_of_gt (Nat.zero_lt_of_lt hfuel))
    have hvalue := hj (level + 1) fuel _ (by omega) (endsNumeral_items b level [] rest)
    have hclose : skipBlanks (spacedItems b level [] ++ rest) = ']' :: rest := by
      rw [spacedItems, List.append_assoc, skipBlanks_append (b.line_blank level)]
      rfl
    rw [items, hvalue]
    simp only [hclose]
    rfl
  | cons k ks ih =>
    obtain ⟨fuel, rfl⟩ := Nat.exists_eq_succ_of_ne_zero (Nat.ne_of_gt (Nat.zero_lt_of_lt hfuel))
    have hvalue := hj (level + 1) fuel _ (by omega) (endsNumeral_items b level (k :: ks) rest)
    have hcomma : skipBlanks (spacedItems b level (k :: ks) ++ rest)
        = ',' :: (b.line (level + 1)
          ++ (k.spaced b (level + 1) ++ (spacedItems b level ks ++ rest))) := by
      simp only [spacedItems, List.cons_append, List.append_assoc]
      exact skipBlanks_cons rfl _
    have hless :
        2 * ((k.spaced b (level + 1)).length + (spacedItems b level ks).length) < fuel := by
      simp only [spacedItems, List.length_cons, List.length_append] at hfuel
      omega
    have htail := ih (hjs k List.mem_cons_self) (fun l hl => hjs l (List.mem_cons_of_mem _ hl))
      fuel hless
    rw [items, hvalue]
    simp only [hcomma, items_blanks (b.line_blank (level + 1)), htail]
    rfl

theorem quoted_append (s : String) (rest : List Char) :
    quoted s ++ rest = '"' :: (s.toList.flatMap escape ++ '"' :: rest) := by
  simp [quoted]

theorem members_spaced {b : Blanks} (key : String) {j : Json} {ms : List (String × Json)}
    (hj : Reads b j) (hms : ∀ m ∈ ms, Reads b m.2) (level fuel : Nat) (rest : List Char)
    (hfuel : 2 * ((j.spaced b (level + 1)).length + (spacedMembers b level ms).length) < fuel) :
    members fuel (quoted key
        ++ ':' :: (b.gap ++ (j.spaced b (level + 1) ++ (spacedMembers b level ms ++ rest))))
      = (Draft.readByMembers Numeral.reread? ((key, j) :: ms), none, some rest) := by
  induction ms generalizing key j fuel with
  | nil =>
    obtain ⟨fuel, rfl⟩ := Nat.exists_eq_succ_of_ne_zero (Nat.ne_of_gt (Nat.zero_lt_of_lt hfuel))
    have hvalue := hj (level + 1) fuel _ (by omega) (endsNumeral_members b level [] rest)
    have hclose : skipBlanks (spacedMembers b level [] ++ rest) = '}' :: rest := by
      rw [spacedMembers, List.append_assoc, skipBlanks_append (b.line_blank level)]
      rfl
    rw [members, quoted_append, skipBlanks_cons rfl]
    simp only [string_quoted, skipBlanks_cons (c := ':') rfl, value_blanks b.gap_blank, hvalue,
      hclose]
    rfl
  | cons m ms ih =>
    obtain ⟨next, k⟩ := m
    obtain ⟨fuel, rfl⟩ := Nat.exists_eq_succ_of_ne_zero (Nat.ne_of_gt (Nat.zero_lt_of_lt hfuel))
    have hvalue := hj (level + 1) fuel _ (by omega)
      (endsNumeral_members b level ((next, k) :: ms) rest)
    have hcomma : skipBlanks (spacedMembers b level ((next, k) :: ms) ++ rest)
        = ',' :: (b.line (level + 1) ++ (quoted next ++ ':' :: (b.gap
          ++ (k.spaced b (level + 1) ++ (spacedMembers b level ms ++ rest))))) := by
      simp only [spacedMembers, List.cons_append, List.append_assoc]
      exact skipBlanks_cons rfl _
    have hless :
        2 * ((k.spaced b (level + 1)).length + (spacedMembers b level ms).length) < fuel := by
      simp only [spacedMembers, List.length_cons, List.length_append] at hfuel
      omega
    have hk : Reads b k := hms (next, k) List.mem_cons_self
    have htail := ih next hk (fun l hl => hms l (List.mem_cons_of_mem _ hl)) fuel hless
    rw [members, quoted_append, skipBlanks_cons rfl]
    simp only [string_quoted, skipBlanks_cons (c := ':') rfl, value_blanks b.gap_blank, hvalue,
      hcomma, members_blanks (b.line_blank (level + 1)), htail]
    rfl

theorem spaced_opening (b : Blanks) (level : Nat) {j : Json} (hj : ∀ n ∈ j.numerals, n.IsRead) :
    ∃ c cs, j.spaced b level = c :: cs ∧ isBlank c = false ∧ c ≠ ']' := by
  cases j with
  | null => exact ⟨_, _, rfl, by decide, by decide⟩
  | bool p => cases p <;> exact ⟨_, _, rfl, by decide, by decide⟩
  | number n =>
    obtain ⟨c, cs, hchars, hc⟩ := (hj n (List.mem_singleton_self n)).opening
    refine ⟨c, cs, hchars, ?_⟩
    rcases hc with rfl | hc
    · decide
    · constructor
      · rw [Bool.eq_false_iff]
        intro hblank
        simp only [isBlank, Bool.or_eq_true, decide_eq_true_eq] at hblank
        rcases hblank with ((rfl | rfl) | rfl) | rfl <;> exact absurd hc (by decide)
      · rintro rfl
        exact absurd hc (by decide)
  | text s => exact ⟨_, _, rfl, by decide, by decide⟩
  | list js => cases js <;> exact ⟨_, _, rfl, by decide, by decide⟩
  | object ms => cases ms <;> exact ⟨_, _, rfl, by decide, by decide⟩

theorem exists_fuel {b : Blanks} {level fuel : Nat} {j : Json}
    (hj : ∀ n ∈ j.numerals, n.IsRead) (hfuel : 2 * (j.spaced b level).length ≤ fuel) :
    ∃ k, fuel = k + 1 := by
  obtain ⟨c, cs, htext, -⟩ := spaced_opening b level hj
  apply Nat.exists_eq_succ_of_ne_zero
  rintro rfl
  simp [htext] at hfuel

theorem reads_list {b : Blanks} {js : List Json}
    (hnum : ∀ n ∈ (list js).numerals, n.IsRead) (h : ∀ j ∈ js, Reads b j) :
    Reads b (.list js) := by
  intro level fuel rest hfuel _
  obtain ⟨fuel, rfl⟩ := exists_fuel hnum hfuel
  cases js with
  | nil => rfl
  | cons j js =>
    simp only [spaced, List.length_cons, List.length_append] at hfuel
    obtain ⟨c, cs, hopen, hblank, hclose⟩ := spaced_opening b (level + 1)
      fun n hn => hnum n (mem_numeralsOf.2 ⟨j, List.mem_cons_self, hn⟩)
    have hitems := items_spaced (h j List.mem_cons_self)
      (fun k hk => h k (List.mem_cons_of_mem _ hk)) level fuel rest (by omega)
    have hskip : skipBlanks (b.line (level + 1)
        ++ (j.spaced b (level + 1) ++ (spacedItems b level js ++ rest)))
        = j.spaced b (level + 1) ++ (spacedItems b level js ++ rest) := by
      rw [skipBlanks_append (b.line_blank _), hopen]
      exact skipBlanks_cons hblank _
    simp only [spaced, List.cons_append, List.append_assoc, value]
    rw [skipBlanks_cons rfl]
    simp only [hskip]
    rw [hopen] at hitems ⊢
    split
    · next hnil => cases hnil
    · next hcons => exact absurd (List.cons.inj hcons).1 hclose
    · simp only [hitems]
      rfl

theorem reads_object {b : Blanks} {ms : List (String × Json)}
    (hnum : ∀ n ∈ (object ms).numerals, n.IsRead) (h : ∀ m ∈ ms, Reads b m.2) :
    Reads b (.object ms) := by
  intro level fuel rest hfuel _
  obtain ⟨fuel, rfl⟩ := exists_fuel hnum hfuel
  cases ms with
  | nil => rfl
  | cons m ms =>
    obtain ⟨key, j⟩ := m
    simp only [spaced, List.length_cons, List.length_append] at hfuel
    have hj : Reads b j := h (key, j) List.mem_cons_self
    have hmembers := members_spaced key hj
      (fun k hk => h k (List.mem_cons_of_mem _ hk)) level fuel rest (by omega)
    rw [quoted_append] at hmembers
    simp only [spaced, List.cons_append, List.append_assoc, value]
    rw [skipBlanks_cons rfl]
    have hskip : ∀ tail, skipBlanks (b.line (level + 1) ++ (quoted key ++ tail))
        = '"' :: (key.toList.flatMap escape ++ '"' :: tail) := by
      intro tail
      rw [skipBlanks_append (b.line_blank _), quoted_append]
      exact skipBlanks_cons rfl _
    simp only [hskip]
    split
    · next hnil => cases hnil
    · next hcons => exact absurd (List.cons.inj hcons).1 (by decide)
    · simp only [hmembers]
      rfl

/-- The text of a value is read as a whole. -/
theorem reads (b : Blanks) (j : Json) (hj : ∀ n ∈ j.numerals, n.IsRead) : Reads b j := by
  induction j using induct with
  | null =>
    intro level fuel rest hfuel _
    obtain ⟨fuel, rfl⟩ := exists_fuel hj hfuel
    rfl
  | bool p =>
    intro level fuel rest hfuel _
    obtain ⟨fuel, rfl⟩ := exists_fuel hj hfuel
    cases p <;> rfl
  | number n =>
    intro level fuel rest hfuel hrest
    obtain ⟨fuel, rfl⟩ := exists_fuel hj hfuel
    exact (hj n (List.mem_singleton_self n)).read fuel rest hrest
  | text s =>
    intro level fuel rest hfuel _
    obtain ⟨fuel, rfl⟩ := exists_fuel hj hfuel
    rw [spaced, quoted_append, value, skipBlanks_cons rfl]
    exact string_quoted s rest
  | list js ih =>
    refine reads_list hj fun j hmem => ih j hmem fun n hn => hj n ?_
    exact mem_numeralsOf.2 ⟨j, hmem, hn⟩
  | object ms ih =>
    refine reads_object hj fun m hmem => ih m hmem fun n hn => hj n ?_
    exact mem_numeralsOfMembers.2 ⟨m, hmem, hn⟩

end Scan

theorem ofText_spaced (b : Blanks) {j : Json} (hj : ∀ n ∈ j.numerals, n.IsRead) :
    Draft.ofText (String.ofList (j.spaced b 0)) = ⟨Draft.readBy Numeral.reread? j, false⟩ := by
  have hvalue := Scan.reads b j hj 0 (2 * (j.spaced b 0).length + 2) [] (by omega)
    Scan.endsNumeral_nil
  rw [List.append_nil] at hvalue
  rw [Draft.ofText, String.toList_ofList]
  simp only [hvalue]
  rfl

theorem ofText_written {j : Json} (hj : ∀ n ∈ j.numerals, n.IsRead) :
    Draft.ofText j.render = ⟨Draft.readBy Numeral.reread? j, false⟩ := by
  rw [render, compact_eq_spaced 0]
  exact ofText_spaced .none hj

theorem ofText_writtenPretty {j : Json} (hj : ∀ n ∈ j.numerals, n.IsRead) :
    Draft.ofText j.renderPretty = ⟨Draft.readBy Numeral.reread? j, false⟩ := by
  rw [renderPretty, indented_eq_spaced 0]
  exact ofText_spaced .indent hj

theorem ofText_render {j : Json} (hj : ∀ n ∈ j.numerals, n.IsReadBack) :
    Draft.ofText j.render = ⟨Draft.ofJson j, false⟩ := by
  rw [ofText_written fun n hn => (hj n hn).toIsRead, Draft.readBy_eq fun n hn => (hj n hn).back]

theorem ofText_renderPretty {j : Json} (hj : ∀ n ∈ j.numerals, n.IsReadBack) :
    Draft.ofText j.renderPretty = ⟨Draft.ofJson j, false⟩ := by
  rw [ofText_writtenPretty fun n hn => (hj n hn).toIsRead,
    Draft.readBy_eq fun n hn => (hj n hn).back]

end Criteria.Json
