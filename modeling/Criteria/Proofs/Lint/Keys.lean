import Criteria.Proofs.Ids
import Criteria.Proofs.Lint.Report

namespace Criteria

theorem append_colon_inj {a b x y : String} (ha : ':' ∉ a.toList) (hb : ':' ∉ b.toList)
    (h : a ++ ":" ++ x = b ++ ":" ++ y) : a = b ∧ x = y := by
  -- neither text has a colon, so the first one in the whole is the one behind it
  have hchars {as bs xs ys : List Char} (ha : ':' ∉ as) (hb : ':' ∉ bs)
      (h : as ++ ':' :: xs = bs ++ ':' :: ys) : as = bs ∧ xs = ys := by
    induction as generalizing bs with
    | nil =>
      cases bs with
      | nil => exact ⟨rfl, (List.cons.inj h).2⟩
      | cons b bs => exact absurd (List.cons.inj h).1 (List.ne_of_not_mem_cons hb)
    | cons a as ih =>
      cases bs with
      | nil => exact absurd (List.cons.inj h).1.symm (List.ne_of_not_mem_cons ha)
      | cons b bs =>
        obtain ⟨rfl, htail⟩ := List.cons.inj h
        obtain ⟨rfl, rfl⟩ :=
          ih (List.not_mem_of_not_mem_cons ha) (List.not_mem_of_not_mem_cons hb) htail
        exact ⟨rfl, rfl⟩
  obtain ⟨hab, hxy⟩ := hchars ha hb (by simpa using congrArg String.toList h)
  exact ⟨String.toList_inj.1 hab, String.toList_inj.1 hxy⟩

theorem colon_not_mem_natText (n : Nat) : ':' ∉ (Decimal.natText n).toList := by
  rw [Decimal.natText, String.toList_ofList]
  intro h
  exact absurd (Decimal.isPlain_natChars n _ h) (by decide)

namespace Lint

variable {ctx : Context} {f : Field} {cs : Constraints} {v w : Violation} {kept vs : List Violation}
  {x : Finding} {path : List String}

theorem id_withKey (level : Level) (rule message key : String) (path : List String) :
    ((Finding.about level rule message path).withKey key).id =
      rule ++ ":" ++ (key ++ ":" ++ path.getLastD "") := by
  simp only [Finding.withKey, Finding.about, String.append_assoc]

theorem mem_typeFindings {index : Nat} {vs : List Value} :
    x ∈ typeFindings ctx f index vs ↔ ∃ i v message, vs[i]? = some v ∧
      typeFault? f v = some message ∧ x = (Finding.error "value-type" message ctx.path).withKey
        (Decimal.natText (index + i)) := by
  induction vs generalizing index with
  | nil => simp [typeFindings]
  | cons v vs ih =>
    rw [typeFindings, List.mem_append, Option.mem_toList, Option.map_eq_some_iff, ih]
    constructor
    · rintro (⟨message, hv, rfl⟩ | ⟨i, w, message, hi, hw, rfl⟩)
      · exact ⟨0, v, message, rfl, hv, rfl⟩
      · exact ⟨i + 1, w, message, hi, hw, by rw [Nat.add_right_comm, Nat.add_assoc]⟩
    · rintro ⟨i, w, message, hi, hw, rfl⟩
      cases i with
      | zero =>
        cases hi
        exact .inl ⟨message, hw, rfl⟩
      | succ i => exact .inr ⟨i, w, message, hi, hw, by rw [Nat.add_right_comm, Nat.add_assoc]⟩

theorem pairwise_typeFindings (ctx : Context) (f : Field) (index : Nat) (vs : List Value) :
    (typeFindings ctx f index vs).Pairwise fun x y => x.id ≠ y.id := by
  induction vs generalizing index with
  | nil => exact .nil
  | cons v vs ih =>
    rw [typeFindings, List.pairwise_append]
    refine ⟨?_, ih (index + 1), fun x hx y hy hid => ?_⟩
    · cases typeFault? f v with
      | none => exact .nil
      | some message => exact List.pairwise_singleton ..
    · rw [Option.mem_toList, Option.map_eq_some_iff] at hx
      obtain ⟨message, -, rfl⟩ := hx
      obtain ⟨i, w, message', -, -, rfl⟩ := mem_typeFindings.1 hy
      rw [Finding.error, Finding.error, id_withKey, id_withKey, String.append_right_inj,
        String.append_left_inj, String.append_left_inj] at hid
      have hindex : index = index + 1 + i := Decimal.natText_inj hid
      omega

/-- The finding on a value that is not of the shape that the operator asks for. -/
def shapeFinding (ctx : Context) (f : Field) (c : Condition) : ShapeFault → Finding
  | .noBounds =>
    (Finding.error "value-type" ("'" ++ f.label ++ "' " ++ c.operator.name
      ++ " needs a lower and an upper bound") ctx.path).suggest "Provide the value as [low, high]"
  | .notSingle =>
    .error "value-type" ("'" ++ f.label ++ "' " ++ c.operator.name ++ " takes a single value")
      ctx.path

theorem mem_valueTyped {c : Condition} : x ∈ valueTyped.condition ctx f c ↔
    hasOperand c = true ∧
      ((∃ fault, operands c.operator c.value = .error fault ∧ x = shapeFinding ctx f c fault) ∨
        ∃ items i v message, operands c.operator c.value = .ok items ∧ items[i]? = some v ∧
          typeFault? f v = some message ∧
          x = (Finding.error "value-type" message ctx.path).withKey (Decimal.natText i)) := by
  simp only [valueTyped, Rule.onConditions]
  cases hasOperand c with
  | false => simp
  | true =>
    cases operands c.operator c.value with
    | error fault => cases fault <;> simp [shapeFinding]
    | ok items => simp [mem_typeFindings]

theorem mem_of_firstOfKey (h : v ∈ firstOfKey kept vs) : v ∈ kept ∨ v ∈ vs := by
  induction vs generalizing kept with
  | nil => exact .inl (List.mem_reverse.1 h)
  | cons w vs ih =>
    rcases ih h with h | h
    · split at h
      · exact .inl h
      · exact (List.mem_cons.1 h).elim (fun h => .inr (h ▸ List.mem_cons_self)) .inl
    · exact .inr (List.mem_cons_of_mem w h)

theorem pairwise_firstOfKey (h : kept.Pairwise fun v w => v.key ≠ w.key) :
    (firstOfKey kept vs).Pairwise fun v w => v.key ≠ w.key := by
  induction vs generalizing kept with
  | nil => exact List.pairwise_reverse.2 (h.imp Ne.symm)
  | cons v vs ih =>
    rw [firstOfKey]
    apply ih
    split
    · exact h
    · next hany =>
      refine List.pairwise_cons.2 ⟨fun w hw hkey => hany ?_, h⟩
      exact List.any_eq_true.2 ⟨w, hw, decide_eq_true hkey.symm⟩

/-- The keys of the constraints that a catalog can name. -/
def constraintKeys : List String := ["min", "max", "min-length", "max-length", "pattern"]

theorem key_mem_of_violations {value : Value} (h : v ∈ violations f cs value) :
    v.key ∈ constraintKeys := by
  have htest {α : Type} {o : Option α} {p : α → Bool} {key : String} {message : α → String}
      (hkey : key ∈ constraintKeys)
      (h : v ∈ ((o.filter p).map fun a => (⟨key, message a⟩ : Violation)).toList) :
      v.key ∈ constraintKeys := by
    rw [Option.mem_toList, Option.map_eq_some_iff] at h
    obtain ⟨a, -, rfl⟩ := h
    exact hkey
  have hmem {α : Type} {o : Option α} {k : α → List Violation} (h : v ∈ (o.map k).getD []) :
      ∃ a, v ∈ k a := by
    cases o with
    | none => cases h
    | some a => exact ⟨a, h⟩
  rw [violations] at h
  split at h
  · obtain ⟨a, h⟩ := hmem h
    simp only [numberViolations, List.mem_append] at h
    rcases h with h | h <;> exact htest (by decide) h
  · obtain ⟨a, h⟩ := hmem h
    simp only [textViolations, List.mem_append] at h
    rcases h with (h | h) | h <;> exact htest (by decide) h

theorem key_mem_of_allViolations {value : Value} (h : v ∈ allViolations f cs value) :
    v.key ∈ "custom" :: constraintKeys := by
  rw [allViolations, List.mem_append, Option.mem_toList, Option.map_eq_some_iff] at h
  rcases h with h | ⟨message, -, rfl⟩
  · rcases mem_of_firstOfKey h with h | h
    · cases h
    · obtain ⟨item, -, h⟩ := List.mem_flatMap.1 h
      exact List.mem_cons_of_mem _ (key_mem_of_violations h)
  · exact List.mem_cons_self

theorem colon_not_mem_key {value : Value} (h : v ∈ allViolations f cs value) :
    ':' ∉ v.key.toList := by
  have hkeys : ∀ key ∈ "custom" :: constraintKeys, ':' ∉ key.toList := by decide
  exact hkeys _ (key_mem_of_allViolations h)

theorem pairwise_allViolations (f : Field) (cs : Constraints) (value : Value) :
    (allViolations f cs value).Pairwise fun v w => v.key ≠ w.key := by
  refine List.pairwise_append.2 ⟨pairwise_firstOfKey .nil, ?_, fun v hv w hw hkey => ?_⟩
  · cases cs.custom.bind (· value) with
    | none => exact .nil
    | some message => exact List.pairwise_singleton ..
  · rw [Option.mem_toList, Option.map_eq_some_iff] at hw
    obtain ⟨message, -, rfl⟩ := hw
    obtain ⟨item, -, hv⟩ := List.mem_flatMap.1 ((mem_of_firstOfKey hv).resolve_left (nomatch ·))
    have hkey : v.key = "custom" := hkey
    have hcustom : "custom" ∈ constraintKeys := hkey ▸ key_mem_of_violations hv
    exact absurd hcustom (by decide)

theorem exists_violation {c : Condition} (h : x ∈ constraintsObeyed.condition ctx f c) :
    ∃ cs, ∃ v ∈ allViolations f cs c.value, x = v.finding ctx.path cs := by
  simp only [constraintsObeyed, Rule.onConditions] at h
  split at h
  · cases h
  · next cs _ =>
    split at h
    · obtain ⟨v, hv, rfl⟩ := List.mem_map.1 h
      exact ⟨cs, v, hv, rfl⟩
    · cases h

end Lint

end Criteria
