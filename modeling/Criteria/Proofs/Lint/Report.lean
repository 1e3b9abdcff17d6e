import Criteria.Proofs.Lint.Contradiction
import Criteria.Proofs.Tree.Alike

namespace Criteria

namespace Lint

/-- What a finding says, wherever the node may stand that it is about. -/
structure Report where
  level : Level
  rule : String
  /-- What comes before the node in the id of a finding. -/
  start : String
  message : String
  suggestion : Option String

/-- The finding about the node at the end of a path. -/
def Report.finding (r : Report) (path : List String) : Finding where
  id := r.start ++ ":" ++ path.getLastD ""
  level := r.level
  rule := r.rule
  message := r.message
  nodeId := path.getLastD ""
  path := path
  suggestion := r.suggestion

/-- Whether findings say the same for every path that leads to their node. -/
def AreReports (fs : List String → List Finding) : Prop :=
  ∃ rs : List Report, ∀ path, fs path = rs.map (·.finding path)

/-- A rule takes from a condition only what the condition tests, and from its place only the path.
-/
structure Rule.IsLocal (r : Rule) : Prop where
  congr {ctx : Context} {f : Field} {c d : Condition} (h : c.test = d.test) :
    r.condition ctx f c = r.condition ctx f d
  reports (catalog : Catalog) (f : Field) (c : Condition) :
    AreReports fun path => r.condition ⟨catalog, path⟩ f c

open Condition (test_eq_iff)

variable {fs gs : List String → List Finding} {c d : Condition} {f : Field} {catalog : Catalog}
  {o : Options}

theorem hasOperand_congr (h : c.test = d.test) : hasOperand c = hasOperand d := by
  obtain ⟨-, hop, hv⟩ := test_eq_iff.1 h
  rw [hasOperand, hasOperand, hop, hv]

namespace AreReports

theorem nil : AreReports fun _ => [] := ⟨[], fun _ => rfl⟩

theorem about (level : Level) (rule message : String) :
    AreReports fun path => [Finding.about level rule message path] :=
  ⟨[⟨level, rule, rule, message, none⟩], fun _ => rfl⟩

theorem suggested (level : Level) (rule message suggestion : String) :
    AreReports fun path => [(Finding.about level rule message path).suggest suggestion] :=
  ⟨[⟨level, rule, rule, message, some suggestion⟩], fun _ => rfl⟩

theorem keyed (level : Level) (rule key message : String) (suggestion : Option String) :
    AreReports fun path =>
      [{ (Finding.about level rule message path).withKey key with suggestion }] :=
  ⟨[⟨level, rule, rule ++ ":" ++ key, message, suggestion⟩], fun _ => rfl⟩

theorem append (hf : AreReports fs) (hg : AreReports gs) :
    AreReports fun path => fs path ++ gs path := by
  obtain ⟨rs, hrs⟩ := hf
  obtain ⟨qs, hqs⟩ := hg
  exact ⟨rs ++ qs, fun path => by simp only [hrs, hqs, List.map_append]⟩

theorem flatMap {α : Type} {as : List α} {k : α → List String → List Finding}
    (h : ∀ a ∈ as, AreReports (k a)) : AreReports fun path => as.flatMap (k · path) := by
  induction as with
  | nil => exact nil
  | cons a as ih =>
    rw [List.forall_mem_cons] at h
    simp only [List.flatMap_cons]
    exact h.1.append (ih h.2)

theorem ite {p : Prop} [Decidable p] (hf : AreReports fs) (hg : AreReports gs) :
    AreReports fun path => if p then fs path else gs path := by
  split
  · exact hf
  · exact hg

end AreReports

theorem isLocal_operatorAllowed : operatorAllowed.IsLocal where
  congr h := by simp only [operatorAllowed, Rule.onConditions, (test_eq_iff.1 h).2.1]
  reports _ _ _ := .ite .nil (.suggested ..)

theorem isLocal_valuePresent : valuePresent.IsLocal where
  congr h := by
    obtain ⟨-, hop, hv⟩ := test_eq_iff.1 h
    simp only [valuePresent, Rule.onConditions, hop, hv]
  reports _ _ _ := .ite .nil (.about ..)

theorem areReports_typeFindings (catalog : Catalog) (f : Field) (index : Nat) (vs : List Value) :
    AreReports fun path => typeFindings ⟨catalog, path⟩ f index vs := by
  induction vs generalizing index with
  | nil => exact .nil
  | cons v vs ih =>
    refine .append ?_ (ih (index + 1))
    cases typeFault? f v with
    | none => exact .nil
    | some message => exact .keyed ..

theorem isLocal_valueTyped : valueTyped.IsLocal where
  congr h := by
    obtain ⟨-, hop, hv⟩ := test_eq_iff.1 h
    simp only [valueTyped, Rule.onConditions, hasOperand_congr h, hop, hv]
  reports catalog f c := by
    refine .ite .nil ?_
    cases operands c.operator c.value with
    | error fault =>
      cases fault with
      | noBounds => exact .suggested ..
      | notSingle => exact .about ..
    | ok vs => exact areReports_typeFindings catalog f 0 vs

/-- Of findings with one id, the first. -/
def firstOfId : List Finding → List Finding → List Finding
  | kept, [] => kept.reverse
  | kept, f :: fs => firstOfId (if kept.any (·.id = f.id) then kept else f :: kept) fs

/-- The findings on the constraints that a value breaks, where those of one id count once. The id of
the node is a part of theirs. -/
def constraintFindings (path : List String) (f : Field) (cs : Constraints) (v : Value) :
    List Finding :=
  firstOfId [] ((v.items.flatMap (violations f cs)).map (Violation.finding path cs))
  ++ ((cs.custom.bind (· v)).map fun message => Violation.finding path cs ⟨"custom", message⟩).toList

theorem id_finding_inj {path : List String} {cs : Constraints} {v w : Violation} :
    (v.finding path cs).id = (w.finding path cs).id ↔ v.key = w.key := by
  simp [Violation.finding, Finding.withKey, Finding.error, Finding.about]

theorem firstOfId_map_finding (path : List String) (cs : Constraints) (kept vs : List Violation) :
    firstOfId (kept.map (Violation.finding path cs)) (vs.map (Violation.finding path cs)) =
      (firstOfKey kept vs).map (Violation.finding path cs) := by
  induction vs generalizing kept with
  | nil => exact List.map_reverse.symm
  | cons v vs ih =>
    have hany : (kept.map (Violation.finding path cs)).any (·.id = (v.finding path cs).id) =
        kept.any (·.key = v.key) := by
      simp only [List.any_map, Function.comp_def, id_finding_inj]
    rw [List.map_cons, firstOfId, firstOfKey, hany, ← ih]
    split <;> rfl

theorem map_finding_allViolations (path : List String) (f : Field) (cs : Constraints) (v : Value) :
    (allViolations f cs v).map (Violation.finding path cs) = constraintFindings path f cs v := by
  rw [allViolations, constraintFindings, List.map_append, ← firstOfId_map_finding]
  cases cs.custom.bind (· v) <;> rfl

theorem isLocal_constraintsObeyed : constraintsObeyed.IsLocal where
  congr {ctx f c d} h := by
    simp only [constraintsObeyed, Rule.onConditions, hasOperand_congr h, (test_eq_iff.1 h).2.2]
  reports catalog f c := by
    simp only [constraintsObeyed, Rule.onConditions]
    cases f.constraints with
    | none => exact .nil
    | some cs =>
      refine .ite ?_ .nil
      simp only [List.map_eq_flatMap]
      exact .flatMap fun v _ => .keyed ..

theorem isLocal_of_mem {r : Rule} (hr : r ∈ standardRules) : r.IsLocal := by
  have hgroups (name description : String) (check : Context → Group → List Finding) :
      (Rule.onGroups name description check).IsLocal := ⟨fun _ => rfl, fun _ _ _ => .nil⟩
  revert r
  simp only [standardRules, List.forall_mem_cons, List.not_mem_nil, false_implies, implies_true,
    and_true]
  exact ⟨isLocal_operatorAllowed, isLocal_valuePresent, isLocal_valueTyped,
    isLocal_constraintsObeyed, hgroups .., hgroups ..⟩

theorem areReports_conditionFindings (ho : o.rules ⊆ standardRules) (catalog : Catalog)
    (c : Condition) : AreReports fun path => conditionFindings o ⟨catalog, path⟩ c := by
  simp only [conditionFindings]
  cases catalog.get? c.field with
  | none => exact .ite (.suggested ..) .nil
  | some f =>
    exact .flatMap fun r hr => (isLocal_of_mem (ho (List.mem_of_mem_filter hr))).reports catalog f c

theorem conditionFindings_congr (ho : o.rules ⊆ standardRules) (h : c.test = d.test)
    (ctx : Context) : conditionFindings o ctx c = conditionFindings o ctx d := by
  rw [conditionFindings, conditionFindings, (test_eq_iff.1 h).1]
  cases ctx.catalog.get? d.field with
  | none => rfl
  | some f =>
    exact List.flatMap_congr fun r hr => (isLocal_of_mem (ho (List.mem_of_mem_filter hr))).congr h

theorem path_of_mem_reports (h : AreReports fs) {path : List String} {x : Finding}
    (hx : x ∈ fs path) : x.path = path ∧ x.nodeId = path.getLastD "" := by
  obtain ⟨rs, hrs⟩ := h
  rw [hrs] at hx
  obtain ⟨r, -, rfl⟩ := List.mem_map.1 hx
  exact ⟨rfl, rfl⟩

theorem areReports_groupFilled (catalog : Catalog) (g : Group) :
    AreReports fun path => groupFilled.group ⟨catalog, path⟩ g :=
  .ite (.suggested ..) .nil

theorem nodeId_contradiction (ctx : Context) (l r : Condition) :
    (contradiction ctx l r).nodeId = r.id := List.getLastD_concat

theorem id_contradiction (ctx : Context) (l r : Condition) :
    (contradiction ctx l r).id = ":".intercalate ["contradiction", l.id, r.id] := by
  have hstart : "contradiction:" = "contradiction" ++ ":" := by decide
  exact congrArg (· ++ l.id ++ ":" ++ r.id) hstart

/-- Only the rule on contradictions looks at the children of a group, and only one other rule at
the group. -/
theorem group_of_mem {r : Rule} (hr : r ∈ standardRules) :
    r = satisfiable ∨ r = groupFilled ∨ ∀ ctx g, r.group ctx g = [] := by
  simp only [standardRules, List.mem_cons, List.not_mem_nil, or_false] at hr
  rcases hr with rfl | rfl | rfl | rfl | rfl | rfl
  · exact .inr (.inr fun _ _ => rfl)
  · exact .inr (.inr fun _ _ => rfl)
  · exact .inr (.inr fun _ _ => rfl)
  · exact .inr (.inr fun _ _ => rfl)
  · exact .inr (.inl rfl)
  · exact .inl rfl

end Lint

end Criteria
