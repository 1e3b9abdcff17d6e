import Criteria.Json.Reader
import Criteria.Json.Writer
import Mathlib.Data.List.Forall2

namespace Criteria.Json

namespace Scan

namespace Piece

/-- The piece of a character that is written as itself or as one unit. -/
inductive StandsFor : Piece → Char → Prop where
  | char (c : Char) : StandsFor (.char c) c
  | unit {c : Char} (h : c.toNat < 32) : StandsFor (.unit c.toNat) c

theorem join?_standsFor {ps : List Piece} {cs : List Char} (h : List.Forall₂ StandsFor ps cs) :
    join? ps = some cs := by
  induction h with
  | nil => rfl
  | @cons p c ps cs hp hps ih =>
    cases hp with
    | char => simp only [join?, ih, Option.map_some]
    | unit hc =>
      -- A control is no half of a surrogate pair.
      have hhigh : isHigh c.toNat = false := by
        simp only [isHigh, Bool.and_eq_false_iff, decide_eq_false_iff_not]
        omega
      have hlow : isLow c.toNat = false := by
        simp only [isLow, Bool.and_eq_false_iff, decide_eq_false_iff_not]
        omega
      cases hps with
      | nil => simp [join?, hhigh, hlow]
      | cons hq hqs =>
        cases hq with
        | char => simp_all [join?]
        | unit => simp_all [join?]

end Piece

open Piece (StandsFor)

theorem unit?_hexDigit : ∀ n < 32,
    unit? '0' '0' (hexDigit (n / 16)) (hexDigit (n % 16)) = some n := by
  decide

theorem pieces_escape (c : Char) (cs : List Char) :
    ∃ p, StandsFor p c ∧ pieces (escape c ++ cs) = (p :: (pieces cs).1, (pieces cs).2) := by
  rw [escape]
  split
  · next h => exact ⟨.char '"', h ▸ .char '"', rfl⟩
  split
  · next h => exact ⟨.char '\\', h ▸ .char '\\', rfl⟩
  split
  · next h => exact ⟨.char '\x08', h ▸ .char '\x08', rfl⟩
  split
  · next h => exact ⟨.char '\x0c', h ▸ .char '\x0c', rfl⟩
  split
  · next h => exact ⟨.char '\n', h ▸ .char '\n', rfl⟩
  split
  · next h => exact ⟨.char '\r', h ▸ .char '\r', rfl⟩
  split
  · next h => exact ⟨.char '\t', h ▸ .char '\t', rfl⟩
  split
  · next h =>
    refine ⟨.unit c.toNat, .unit h, ?_⟩
    simp only [List.cons_append, List.nil_append, pieces, unit?_hexDigit c.toNat h]
  · next hquote hbackslash _ _ _ _ _ hcontrol =>
    refine ⟨.char c, .char c, ?_⟩
    rw [List.cons_append, List.nil_append, pieces]
    · simp only [hcontrol, if_false]
    all_goals simp_all

theorem pieces_quoted (cs rest : List Char) :
    ∃ ps, List.Forall₂ StandsFor ps cs ∧
      pieces (cs.flatMap escape ++ '"' :: rest) = (ps, .ok rest) := by
  induction cs with
  | nil => exact ⟨[], .nil, rfl⟩
  | cons c cs ih =>
    obtain ⟨ps, hps, htail⟩ := ih
    obtain ⟨p, hp, hhead⟩ := pieces_escape c (cs.flatMap escape ++ '"' :: rest)
    refine ⟨p :: ps, .cons hp hps, ?_⟩
    rw [List.flatMap_cons, List.append_assoc, hhead, htail]

theorem string_quoted (s : String) (rest : List Char) :
    string (s.toList.flatMap escape ++ '"' :: rest) = (.text (some s), some rest) := by
  obtain ⟨ps, hps, hpieces⟩ := pieces_quoted s.toList rest
  simp only [string, hpieces, Piece.join?_standsFor hps, Option.map_some, String.ofList_toList]

end Scan

end Criteria.Json
