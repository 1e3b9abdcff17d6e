import Criteria.Proofs.Lint.Conforms

namespace Criteria.Lint

variable {catalog : Catalog} {c : Condition}

variable {op : Operator} {v : Value} {vs : List Value}

theorem range?_of_operands (hop : op.isRange = true) (h : operands op v = .ok vs) :
    ∃ low high, v.range? = some (low, high) ∧ vs = [low, high] := by
  rw [operands, if_pos hop] at h
  cases hv : v.range? with
  | none =>
    rw [hv] at h
    cases h
  | some bounds =>
    obtain ⟨low, high⟩ := bounds
    rw [hv] at h
    dsimp only at h
    split at h <;> cases h
    exact ⟨low, high, rfl, rfl⟩

theorem items_of_operands (hrange : op.isRange = false) (hop : op.isList = true)
    (h : operands op v = .ok vs) : vs = v.items := by
  rw [operands, if_neg (Bool.not_eq_true _ ▸ hrange), if_pos hop] at h
  cases h
  rfl

theorem single_of_operands (hrange : op.isRange = false) (hop : op.isList = false)
    (h : operands op v = .ok vs) : vs = [v] := by
  rw [operands, if_neg (Bool.not_eq_true _ ▸ hrange), if_neg (Bool.not_eq_true _ ▸ hop)] at h
  split at h <;> cases h
  rfl

/-- A condition of a valid tree that takes a value is on a known field, and its value has the shape
of its operator and items of the type of the field. -/
theorem operands_of_isValid {t : Tree} (hv : isValid t catalog = true) (hc : c ∈ t.conditions)
    (hop : c.operator.isValueless = false) :
    ∃ f vs, catalog.get? c.field = some f ∧ operands c.operator c.value = .ok vs ∧
      ∀ v ∈ vs, typeFault? f v = none := by
  have hconforms : c.Conforms catalog := (clean_node t.toNode []).1 (isValid_iff_clean.1 hv) c hc
  obtain ⟨f, hf, -, hvalue⟩ := hconforms
  obtain ⟨-, vs, hvs, htyped, -⟩ := hvalue.resolve_left (Bool.not_eq_true _ ▸ hop)
  exact ⟨f, vs, hf, operands_eq_ok.2 hvs, fun v hm => typeFault?_eq_none.2 (htyped v hm)⟩

end Criteria.Lint
