import Criteria.Proofs.Lint.Keys

namespace Criteria.Lint

/-- Whether a finding is made out to a rule: as its rule and at the start of its id. -/
def Finding.SignedBy (f : Finding) (name : String) : Prop :=
  f.rule = name ∧ ∃ rest, f.id = name ++ ":" ++ rest

/-- Whether there is nothing but the rule and the node in the id of a finding. -/
def Finding.Unkeyed (f : Finding) (name : String) : Prop :=
  f.rule = name ∧ f.id = name ++ ":" ++ f.nodeId

/-- A rule puts its name into all of its findings. -/
structure Rule.Signs (r : Rule) : Prop where
  condition (ctx : Context) (f : Field) (c : Condition) :
    ∀ x ∈ r.condition ctx f c, x.SignedBy r.name
  group (ctx : Context) (g : Group) : ∀ x ∈ r.group ctx g, x.SignedBy r.name

variable {r : Rule} {x : Finding} {level : Level} {rule message key : String}
  {path : List String} {ctx : Context} {f : Field} {c : Condition} {g : Group}

theorem Finding.Unkeyed.signedBy (h : x.Unkeyed rule) : x.SignedBy rule := ⟨h.1, _, h.2⟩

theorem signed_withKey : ((Finding.about level rule message path).withKey key).SignedBy rule :=
  ⟨rfl, _, id_withKey level rule message key path⟩

theorem id_contradiction_eq (ctx : Context) (l r : Condition) :
    (contradiction ctx l r).id = "contradiction" ++ ":" ++ (l.id ++ ":" ++ r.id) := by
  have hid : (contradiction ctx l r).id = "contradiction" ++ ":" ++ l.id ++ ":" ++ r.id :=
    id_contradiction ctx l r
  rw [hid]
  simp only [String.append_assoc]

theorem signs_onConditions {name description : String}
    {check : Context → Field → Condition → List Finding}
    (h : ∀ ctx f c, ∀ x ∈ check ctx f c, x.SignedBy name) :
    (Rule.onConditions name description check).Signs := ⟨h, fun _ _ _ hx => nomatch hx⟩

theorem signs_onGroups {name description : String} {check : Context → Group → List Finding}
    (h : ∀ ctx g, ∀ x ∈ check ctx g, x.SignedBy name) :
    (Rule.onGroups name description check).Signs := ⟨fun _ _ _ _ hx => (nomatch hx), h⟩

theorem unkeyed_operatorAllowed (h : x ∈ operatorAllowed.condition ctx f c) :
    x.Unkeyed "operator-compat" := by
  simp only [operatorAllowed, Rule.onConditions] at h
  split at h
  · cases h
  · exact List.mem_singleton.1 h ▸ ⟨rfl, rfl⟩

theorem unkeyed_valuePresent (h : x ∈ valuePresent.condition ctx f c) :
    x.Unkeyed "missing-value" := by
  simp only [valuePresent, Rule.onConditions] at h
  split at h
  · cases h
  · exact List.mem_singleton.1 h ▸ ⟨rfl, rfl⟩

theorem unkeyed_groupFilled (h : x ∈ groupFilled.group ctx g) : x.Unkeyed "empty-group" := by
  simp only [groupFilled, Rule.onGroups] at h
  split at h
  · exact List.mem_singleton.1 h ▸ ⟨rfl, rfl⟩
  · cases h

theorem unkeyed_shapeFinding (fault : ShapeFault) :
    (shapeFinding ctx f c fault).Unkeyed "value-type" := by
  cases fault <;> exact ⟨rfl, rfl⟩

theorem signed_valueTyped (h : x ∈ valueTyped.condition ctx f c) : x.SignedBy "value-type" := by
  obtain ⟨-, ⟨fault, -, rfl⟩ | ⟨items, i, v, message, -, -, -, rfl⟩⟩ := mem_valueTyped.1 h
  · exact (unkeyed_shapeFinding fault).signedBy
  · exact signed_withKey

theorem signed_constraintsObeyed (h : x ∈ constraintsObeyed.condition ctx f c) :
    x.SignedBy "field-constraints" := by
  obtain ⟨cs, v, -, rfl⟩ := exists_violation h
  exact ⟨rfl, _, id_withKey ..⟩

theorem signed_satisfiable (h : x ∈ satisfiable.group ctx g) : x.SignedBy "contradiction" := by
  simp only [satisfiable, Rule.onGroups, List.mem_flatMap, List.mem_map] at h
  obtain ⟨run, -, p, -, rfl⟩ := h
  exact ⟨rfl, _, id_contradiction_eq ctx p.1.1 p.2.1⟩

theorem signs_of_mem (hr : r ∈ standardRules) : r.Signs := by
  revert r
  simp only [standardRules, List.forall_mem_cons, List.not_mem_nil, false_implies, implies_true,
    and_true]
  exact ⟨signs_onConditions fun _ _ _ _ h => (unkeyed_operatorAllowed h).signedBy,
    signs_onConditions fun _ _ _ _ h => (unkeyed_valuePresent h).signedBy,
    signs_onConditions fun _ _ _ _ h => signed_valueTyped h,
    signs_onConditions fun _ _ _ _ h => signed_constraintsObeyed h,
    signs_onGroups fun _ _ _ h => (unkeyed_groupFilled h).signedBy,
    signs_onGroups fun _ _ _ h => signed_satisfiable h⟩

end Criteria.Lint
