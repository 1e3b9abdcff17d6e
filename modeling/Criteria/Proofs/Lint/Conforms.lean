import Criteria.Lint
import Criteria.Tree.Lookup

namespace Criteria

/-- What a value must be to be of the type of a field. -/
def Field.Admits (f : Field) (v : Value) : Prop :=
  match f.type with
  | .number => ∃ x, v.number? = some x
  | .date => ∃ d, v.date? = some d
  | .boolean => ∃ b, v.bool? = some b
  | .select => f.options = [] ∨ ∃ o ∈ f.options, o.value = v.plain
  | .string => ∀ vs, v ≠ .list vs

/-- The items that a value carries for an operator: two bounds, any candidates, or the value. -/
inductive Operator.Carries (op : Operator) : Value → List Value → Prop
  | bounds {low high : Value} (hop : op.isRange = true) (hlow : low.isMissing = false)
      (hhigh : high.isMissing = false) : Carries op (.list [low, high]) [low, high]
  | candidates {v : Value} (hop : op.isList = true) : Carries op v v.items
  | single {v : Value} (hrange : op.isRange = false) (hlist : op.isList = false)
      (hv : ∀ vs, v ≠ .list vs) : Carries op v [v]

/-- What the constraints of a field ask of a value and of the items that it carries. -/
structure Constraints.Allow (cs : Constraints) (f : Field) (v : Value) (items : List Value) :
    Prop where
  min : f.type = .number → ∀ b, cs.min = some b → ∀ i ∈ items, ∀ x, i.number? = some x →
    b.value ≤ x
  max : f.type = .number → ∀ b, cs.max = some b → ∀ i ∈ items, ∀ x, i.number? = some x →
    x ≤ b.value
  minLength : f.type ≠ .number → ∀ n, cs.minLength = some n → ∀ i ∈ items, ∀ s, i.text? = some s →
    n ≤ s.length
  maxLength : f.type ≠ .number → ∀ n, cs.maxLength = some n → ∀ i ∈ items, ∀ s, i.text? = some s →
    s.length ≤ n
  pattern : f.type ≠ .number → ∀ p, cs.pattern = some p → ∀ r, Pattern.ofText? p = some r →
    ∀ i ∈ items, ∀ s, i.text? = some s → r.matchesIn s = true
  custom : ∀ test, cs.custom = some test → test v = .none

/-- What a condition must be to be accepted. -/
def Condition.Conforms (catalog : Catalog) (c : Condition) : Prop :=
  ∃ f, catalog.get? c.field = some f ∧ c.operator ∈ f.operators ∧
    (c.operator.isValueless = true ∨
      c.value.isMissing = false ∧ ∃ items, c.operator.Carries c.value items ∧
        (∀ i ∈ items, f.Admits i) ∧ ∀ cs, f.constraints = some cs → cs.Allow f c.value items)

namespace Lint

variable {op : Operator} {v : Value} {items : List Value} {f : Field} {cs : Constraints}
  {ctx : Context} {c : Condition} {catalog : Catalog}

theorem isList_of_isRange (h : op.isRange = true) : op.isList = false := by
  revert h
  cases op <;> decide

theorem list?_eq_none : v.isList = false ↔ ∀ vs, v ≠ .list vs := by
  cases v <;> simp [Value.isList, Value.list?]

theorem range?_eq_some {low high : Value} :
    v.range? = some (low, high) ↔ v = .list [low, high] := by
  cases v with
  | list vs => rcases vs with _ | ⟨a, _ | ⟨b, _ | ⟨_, _⟩⟩⟩ <;> simp [Value.range?]
  | null | bool | number | text => simp [Value.range?]

theorem operands_eq_ok : operands op v = .ok items ↔ op.Carries v items := by
  constructor
  · intro h
    rw [operands] at h
    split at h
    · next hrange =>
      split at h
      · next low high hv =>
        split at h
        · cases h
        · next hbounds =>
          cases h
          rw [Bool.or_eq_true, not_or, Bool.not_eq_true, Bool.not_eq_true] at hbounds
          obtain rfl := range?_eq_some.1 hv
          exact .bounds hrange hbounds.1 hbounds.2
      · cases h
    · next hrange =>
      split at h
      · next hlist =>
        cases h
        exact .candidates hlist
      · next hlist =>
        split at h
        · cases h
        · next hv =>
          cases h
          rw [Bool.not_eq_true] at hrange hlist hv
          exact .single hrange hlist (list?_eq_none.1 hv)
  · intro h
    cases h with
    | bounds hop hlow hhigh =>
      rw [operands, if_pos hop]
      simp only [Value.range?, hlow, hhigh, Bool.or_self, Bool.false_eq_true, if_false]
    | candidates hop =>
      have hrange : ¬ op.isRange = true := fun h =>
        Bool.noConfusion ((isList_of_isRange h).symm.trans hop)
      rw [operands, if_neg hrange, if_pos hop]
    | single hrange hlist hv =>
      rw [operands, hrange, hlist, list?_eq_none.2 hv]
      rfl

theorem typeFault?_eq_none : typeFault? f v = none ↔ f.Admits v := by
  obtain ⟨name, label, type, operators, options, constraints⟩ := f
  cases type with
  | number | date | boolean =>
    simp only [typeFault?, Field.Admits, ite_eq_left_iff, reduceCtorEq, imp_false,
      Decidable.not_not]
    exact Option.isSome_iff_exists
  | select =>
    simp only [typeFault?, Field.Admits, ite_eq_left_iff, reduceCtorEq, imp_false,
      Decidable.not_not, Bool.or_eq_true, List.isEmpty_iff, Field.option?, List.find?_isSome,
      decide_eq_true_eq]
  | string =>
    simp only [typeFault?, Field.Admits, ite_eq_right_iff, reduceCtorEq, imp_false,
      Bool.not_eq_true, list?_eq_none]

theorem misses_eq_false {pattern text : String} :
    misses pattern text = false ↔
      ∀ r, Pattern.ofText? pattern = some r → r.matchesIn text = true := by
  rw [misses]
  cases Pattern.ofText? pattern with
  | none => simp only [reduceCtorEq, false_implies, implies_true]
  | some r => simp only [Bool.not_eq_false', Option.some.injEq, forall_eq']

theorem toList_map_filter_eq_nil {α β : Type} {o : Option α} {p : α → Bool} {g : α → β} :
    ((o.filter p).map g).toList = [] ↔ ∀ a, o = some a → p a = false := by
  cases o with
  | none => simp only [Option.filter_none, Option.map_none, Option.toList_none, reduceCtorEq,
      false_implies, implies_true]
  | some a =>
    cases hp : p a <;> simp [Option.filter, hp]

theorem numberViolations_eq_nil {label : String} {x : Number} :
    numberViolations label cs x = [] ↔
      (∀ b, cs.min = some b → b.value ≤ x) ∧ ∀ b, cs.max = some b → x ≤ b.value := by
  simp only [numberViolations, List.append_eq_nil_iff, toList_map_filter_eq_nil,
    decide_eq_false_iff_not]
  exact and_congr (forall₂_congr fun _ _ => Int.not_lt) (forall₂_congr fun _ _ => Int.not_lt)

theorem textViolations_eq_nil {label s : String} :
    textViolations label cs s = [] ↔
      (∀ n, cs.minLength = some n → n ≤ s.length) ∧ (∀ n, cs.maxLength = some n → s.length ≤ n) ∧
        ∀ p, cs.pattern = some p → ∀ r, Pattern.ofText? p = some r → r.matchesIn s = true := by
  simp only [textViolations, List.append_eq_nil_iff, toList_map_filter_eq_nil,
    decide_eq_false_iff_not, Nat.not_lt, misses_eq_false, and_assoc]

theorem firstOfKey_ne_nil {kept vs : List Violation} (h : kept ≠ []) : firstOfKey kept vs ≠ [] := by
  induction vs generalizing kept with
  | nil => simpa only [firstOfKey, ne_eq, List.reverse_eq_nil_iff] using h
  | cons v vs ih =>
    apply ih
    split
    · exact h
    · exact List.cons_ne_nil _ _

theorem firstOfKey_eq_nil {vs : List Violation} : firstOfKey [] vs = [] ↔ vs = [] := by
  cases vs with
  | nil => exact iff_of_true rfl rfl
  | cons v vs =>
    have hne : firstOfKey [v] vs ≠ [] := firstOfKey_ne_nil (List.cons_ne_nil v [])
    exact iff_of_false hne (List.cons_ne_nil v vs)

theorem items_of_carries (hc : op.Carries v items) : v.items = items := by
  cases hc with
  | bounds | candidates => rfl
  | single _ _ hv =>
    cases v with
    | list vs => exact absurd rfl (hv vs)
    | null | bool | number | text => rfl

theorem violations_eq_nil : violations f cs v = [] ↔
    (f.type = .number → ∀ x, v.number? = some x →
      (∀ b, cs.min = some b → b.value ≤ x) ∧ ∀ b, cs.max = some b → x ≤ b.value) ∧
    (f.type ≠ .number → ∀ s, v.text? = some s →
      (∀ n, cs.minLength = some n → n ≤ s.length) ∧ (∀ n, cs.maxLength = some n → s.length ≤ n) ∧
        ∀ p, cs.pattern = some p → ∀ r, Pattern.ofText? p = some r → r.matchesIn s = true) := by
  rw [violations]
  split
  · next hf =>
    cases v.number? with
    | none => simp [hf]
    | some x => simp [hf, numberViolations_eq_nil]
  · next hf =>
    have hf : f.type ≠ .number := hf
    cases v.text? with
    | none => simp [hf]
    | some s => simp [hf, textViolations_eq_nil]

theorem allViolations_eq_nil (hc : op.Carries v items) :
    allViolations f cs v = [] ↔ cs.Allow f v items := by
  rw [allViolations, List.append_eq_nil_iff, firstOfKey_eq_nil, items_of_carries hc,
    List.flatMap_eq_nil_iff]
  simp only [violations_eq_nil, Option.toList_eq_nil_iff, Option.map_eq_none_iff,
    Option.bind_eq_none_iff]
  constructor
  · rintro ⟨h, hcustom⟩
    exact
      { min := fun hf b hb i hi x hx => ((h i hi).1 hf x hx).1 b hb
        max := fun hf b hb i hi x hx => ((h i hi).1 hf x hx).2 b hb
        minLength := fun hf n hn i hi s hs => ((h i hi).2 hf s hs).1 n hn
        maxLength := fun hf n hn i hi s hs => ((h i hi).2 hf s hs).2.1 n hn
        pattern := fun hf p hp r hr i hi s hs => ((h i hi).2 hf s hs).2.2 p hp r hr
        custom := hcustom }
  · intro h
    refine ⟨fun i hi => ⟨fun hf x hx => ⟨?_, ?_⟩, fun hf s hs => ⟨?_, ?_, ?_⟩⟩, h.custom⟩
    · exact fun b hb => h.min hf b hb i hi x hx
    · exact fun b hb => h.max hf b hb i hi x hx
    · exact fun n hn => h.minLength hf n hn i hi s hs
    · exact fun n hn => h.maxLength hf n hn i hi s hs
    · exact fun p hp r hr => h.pattern hf p hp r hr i hi s hs

/-- Whether none of several findings is an error. -/
def Clean (fs : List Finding) : Prop := ∀ x ∈ fs, x.isError = false

theorem clean_nil : Clean [] := fun _ hx => nomatch hx

theorem clean_append {fs gs : List Finding} : Clean (fs ++ gs) ↔ Clean fs ∧ Clean gs :=
  List.forall_mem_append

theorem clean_cons {x : Finding} {fs : List Finding} :
    Clean (x :: fs) ↔ x.isError = false ∧ Clean fs :=
  List.forall_mem_cons

theorem clean_flatMap {α : Type} {as : List α} {g : α → List Finding} :
    Clean (as.flatMap g) ↔ ∀ a ∈ as, Clean (g a) := by
  simp only [Clean, List.mem_flatMap, forall_exists_index, and_imp]
  exact forall_comm.trans (forall_congr' fun a => forall_comm)

theorem not_clean_of_error {x : Finding} {fs : List Finding} (hx : x.isError = true) :
    ¬ Clean (x :: fs) := by
  intro h
  cases hx.symm.trans (clean_cons.1 h).1

theorem clean_operatorAllowed :
    Clean (operatorAllowed.condition ctx f c) ↔ c.operator ∈ f.operators := by
  simp only [operatorAllowed, Rule.onConditions]
  split
  · next h => exact iff_of_true clean_nil (List.contains_iff_mem.1 h)
  · next h => exact iff_of_false (not_clean_of_error rfl) fun hm => h (List.contains_iff_mem.2 hm)

theorem clean_valuePresent : Clean (valuePresent.condition ctx f c) ↔
    c.operator.isValueless = true ∨ c.value.isMissing = false := by
  simp only [valuePresent, Rule.onConditions]
  split
  · next h =>
    rw [Bool.or_eq_true, Bool.not_eq_true'] at h
    exact iff_of_true clean_nil h
  · next h =>
    rw [Bool.or_eq_true, Bool.not_eq_true'] at h
    exact iff_of_false (not_clean_of_error rfl) h

theorem clean_typeFindings {index : Nat} {vs : List Value} :
    Clean (typeFindings ctx f index vs) ↔ ∀ v ∈ vs, f.Admits v := by
  induction vs generalizing index with
  | nil => exact iff_of_true clean_nil fun v hv => nomatch hv
  | cons v vs ih =>
    rw [typeFindings, clean_append, ih, List.forall_mem_cons, ← typeFault?_eq_none]
    refine and_congr_left fun _ => ?_
    cases typeFault? f v with
    | none => exact iff_of_true clean_nil rfl
    | some message => exact iff_of_false (not_clean_of_error rfl) (Option.some_ne_none _)

theorem clean_valueTyped (hc : hasOperand c = true) : Clean (valueTyped.condition ctx f c) ↔
    ∃ items, c.operator.Carries c.value items ∧ ∀ i ∈ items, f.Admits i := by
  simp only [valueTyped, Rule.onConditions, hc, Bool.not_true, Bool.false_eq_true, if_false,
    ← operands_eq_ok]
  cases operands c.operator c.value with
  | ok items =>
    refine clean_typeFindings.trans ⟨fun h => ⟨items, rfl, h⟩, ?_⟩
    rintro ⟨_, ⟨⟩, h⟩
    exact h
  | error fault =>
    have hitems : ¬ ∃ items : List Value, Except.error fault = .ok items ∧
        ∀ i ∈ items, f.Admits i := by
      rintro ⟨items, h, -⟩
      cases h
    refine iff_of_false ?_ hitems
    cases fault <;> exact not_clean_of_error rfl

theorem clean_constraintsObeyed (hc : hasOperand c = true)
    (hitems : c.operator.Carries c.value items) : Clean (constraintsObeyed.condition ctx f c) ↔
      ∀ cs, f.constraints = some cs → cs.Allow f c.value items := by
  simp only [constraintsObeyed, Rule.onConditions, hc, if_true]
  cases f.constraints with
  | none => exact iff_of_true clean_nil fun cs h => nomatch h
  | some cs =>
    simp only [Option.some.injEq, forall_eq', ← allViolations_eq_nil hitems]
    cases allViolations f cs c.value with
    | nil => exact iff_of_true clean_nil rfl
    | cons v vs => exact iff_of_false (not_clean_of_error rfl) (List.cons_ne_nil v vs)

theorem clean_of_no_operand (hc : hasOperand c = false) :
    Clean (valueTyped.condition ctx f c) ∧ Clean (constraintsObeyed.condition ctx f c) := by
  simp only [valueTyped, constraintsObeyed, Rule.onConditions, hc, Bool.not_false, if_true,
    Bool.false_eq_true, if_false]
  refine ⟨clean_nil, ?_⟩
  cases f.constraints <;> exact clean_nil

/-- On a known field each of the rules asks for its part: those on the value only if there is one to
look at, and the last of them of the items that the one before lets through. -/
theorem clean_conditionFindings {path : List String} :
    Clean (conditionFindings .standard ⟨catalog, path⟩ c) ↔ c.Conforms catalog := by
  rw [conditionFindings, Condition.Conforms]
  cases catalog.get? c.field with
  | none =>
    refine iff_of_false (not_clean_of_error rfl) ?_
    rintro ⟨f, h, -⟩
    cases h
  | some f =>
    have hrules : Options.standard.enabled = standardRules := rfl
    have hgroup : Clean (groupFilled.condition ⟨catalog, path⟩ f c) ∧
        Clean (satisfiable.condition ⟨catalog, path⟩ f c) := ⟨clean_nil, clean_nil⟩
    simp only [Option.some.injEq, exists_eq_left', clean_flatMap, hrules, standardRules,
      List.forall_mem_cons, List.not_mem_nil, false_implies, implies_true, and_true, hgroup,
      clean_operatorAllowed, clean_valuePresent]
    refine and_congr_right fun _ => ?_
    cases hop : c.operator.isValueless with
    | true =>
      have hc : hasOperand c = false := by
        rw [hasOperand, hop]
        rfl
      exact iff_of_true ⟨.inl rfl, clean_of_no_operand hc⟩ (.inl rfl)
    | false =>
      simp only [Bool.false_eq_true, false_or]
      refine and_congr_right fun hvalue => ?_
      have hc : hasOperand c = true := by
        rw [hasOperand, hop, hvalue]
        rfl
      rw [clean_valueTyped hc]
      constructor
      · rintro ⟨⟨items, hitems, htyped⟩, hconstraints⟩
        exact ⟨items, hitems, htyped, (clean_constraintsObeyed hc hitems).1 hconstraints⟩
      · rintro ⟨items, hitems, htyped, hconstraints⟩
        exact ⟨⟨items, hitems, htyped⟩, (clean_constraintsObeyed hc hitems).2 hconstraints⟩

theorem clean_groupFindings {g : Group} : Clean (groupFindings .standard ctx g) := by
  have hrules : Options.standard.enabled = standardRules := rfl
  simp only [groupFindings, hrules, standardRules, clean_flatMap, List.forall_mem_cons]
  refine ⟨clean_nil, clean_nil, clean_nil, clean_nil, ?_, ?_, fun _ h => nomatch h⟩
  · simp only [groupFilled, Rule.onGroups]
    split
    · exact clean_cons.2 ⟨rfl, clean_nil⟩
    · exact clean_nil
  · intro x hx
    simp only [satisfiable, Rule.onGroups, List.mem_flatMap, List.mem_map] at hx
    obtain ⟨run, -, pair, -, rfl⟩ := hx
    rfl

mutual

/-- The walk reaches every condition of a node, and no error comes from elsewhere. -/
theorem clean_node (n : Node) (path : List String) :
    Clean (node .standard catalog path n) ↔ ∀ c ∈ n.conditions, c.Conforms catalog := by
  cases n with
  | condition c => rw [node, clean_conditionFindings, Node.conditions, List.forall_mem_singleton]
  | group h children =>
    rw [node, clean_append, clean_nodes children, Node.conditions]
    exact and_iff_right clean_groupFindings

theorem clean_nodes (ns : List Node) (path : List String) :
    Clean (nodes .standard catalog path ns) ↔ ∀ c ∈ Node.conditionsOf ns, c.Conforms catalog := by
  cases ns with
  | nil => exact iff_of_true clean_nil fun c hc => nomatch hc
  | cons n ns =>
    rw [nodes, clean_append, clean_node n, clean_nodes ns, Node.conditionsOf,
      List.forall_mem_append]

end

theorem isValid_iff_clean {t : Tree} :
    isValid t catalog = true ↔ Clean (tree t catalog .standard) := by
  simp only [isValid, List.all_eq_true, Bool.not_eq_true', Clean]

end Lint

/-- The linter accepts a tree if and only if every condition in it conforms to the catalog. -/
theorem isValid_iff_conforms (t : Tree) (catalog : Catalog) :
    Lint.isValid t catalog = true ↔ ∀ c ∈ t.conditions, c.Conforms catalog :=
  Lint.isValid_iff_clean.trans (Lint.clean_node t.toNode [])

end Criteria
