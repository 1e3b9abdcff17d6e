import Criteria.Proofs.Sql.Keyword

namespace Criteria.Sql

/-- The name of a column, letter case aside: a quoted name is one part, and a bare word has a part
before and after each point. -/
def Column.path : Column → List (List Char)
  | .bare name => (name.toList.splitOn '.').map (·.map Char.toLower)
  | .quoted name => [name.toList.map Char.toLower]

/-- What a text says: what relation holds of which column, and how these are put together. -/
def read? (cs : List Char) : Option (Formula (List (List Char) × Relation)) :=
  (parse cs).map (·.bind fun a => .atom (a.column.path, a.relation))

/-- What a condition says in SQL. -/
def reading (catalog : Catalog) (options : Options) (c : Condition) :
    Formula (List (List Char) × Relation) :=
  (predicate catalog options c).formula.bind fun a => .atom (a.column.path, a.relation)

theorem length_splitOn {cs : List Char} (h : '.' ∈ cs) : 1 < (cs.splitOn '.').length := by
  obtain ⟨before, after, rfl, hbefore⟩ := List.eq_append_cons_of_mem h
  rw [List.splitOn_append_cons_self_of_not_mem hbefore, List.length_cons]
  exact Nat.succ_lt_succ (List.length_pos_of_ne_nil (List.splitOn_ne_nil '.' after))

theorem path_ofName_iff (name : String) :
    (Column.ofName true name).path = (Column.ofName false name).path ↔
      (isBare name = true → '.' ∉ name.toList) := by
  cases hbare : isBare name with
  | false => simp [Column.ofName, hbare]
  | true =>
    have hquoted : Column.ofName true name = .quoted name := by simp [Column.ofName]
    have hword : Column.ofName false name = .bare name := by simp [Column.ofName, hbare]
    rw [hquoted, hword, Column.path, Column.path]
    constructor
    · intro h _ hdot
      have hlength := congrArg List.length h
      rw [List.length_map, List.length_singleton] at hlength
      exact absurd (length_splitOn hdot) (by omega)
    · intro hdot
      rw [List.splitOn_eq_singleton (hdot rfl), List.map_singleton]

/-- What a predicate says differs with the name of its column, and with nothing else that depends on
quoting. -/
theorem reading_eq_iff (catalog : Catalog) (c : Condition) :
    reading catalog ⟨true⟩ c = reading catalog ⟨false⟩ c ↔
      (isBare c.field = true → '.' ∉ c.field.toList) := by
  rw [← path_ofName_iff]
  simp only [reading, predicate]
  cases test (catalog.get? c.field) c.operator c.value <;>
    simp [Predicate.formula, Formula.bind]

theorem read?_compile {t : Tree} {catalog : Catalog} {options : Options} {f : Formula Condition}
    (hf : t.render? (.formula fun _ => .chain) = some f)
    (hk : options.quoteAllIdentifiers = false →
      ∀ d ∈ t.conditions, Keyword.ofWord? d.field = none) :
    read? (compile t catalog options).toList = some (f.bind (reading catalog options)) := by
  have ht : t.conditions ≠ [] := by
    intro ht
    cases hf.symm.trans ((Group.render?_eq_none t).2 ht)
  obtain ⟨c, hc⟩ := Option.ne_none_iff_exists'.1 (mt (Group.render?_eq_none t).1 ht)
  obtain ⟨g, hg, hformula⟩ := exists_formula_of_clause? hc
  obtain rfl : f = g := Option.some.inj (hf.symm.trans hg)
  rw [read?, parse_of_clause? hc hk, hformula, Option.map_some, Formula.bind_bind,
    Formula.bind_bind]
  rfl

theorem read?_nil : read? [] = none := by
  simp [read?, parse, lex, Grammar.condition?_eq, Grammar.term?_eq, Grammar.factor?,
    Grammar.predicate?, Grammar.column?]

/-- Quoting all names does not change what the text of a tree says if and only if no field that can
stand unquoted has a point in its name or is a keyword. Quoted names are read whatever they are. -/
theorem quoting_read_alike_iff (t : Tree) (catalog : Catalog) :
    (read? (compile t catalog ⟨true⟩).toList = read? (compile t catalog ⟨false⟩).toList ↔
      ∀ c ∈ t.conditions, isBare c.field = true →
        '.' ∉ c.field.toList ∧ Keyword.ofWord? c.field = none) ∧
    (read? (compile t catalog ⟨true⟩).toList = none ↔ t.conditions = []) := by
  by_cases ht : t.conditions = []
  · have hclause (options : Options) : clause? t catalog options = none :=
      (Group.render?_eq_none t).2 ht
    have hempty (options : Options) : compile t catalog options = "" := by
      rw [compile, hclause]
      rfl
    rw [hempty, hempty, ht]
    exact ⟨iff_of_true rfl fun c hc => absurd hc List.not_mem_nil, iff_of_true read?_nil rfl⟩
  · obtain ⟨f, hf, -⟩ := Group.exists_formula_chain ht
    have hquoted : read? (compile t catalog ⟨true⟩).toList
        = some (f.bind (reading catalog ⟨true⟩)) :=
      read?_compile hf fun h => absurd h (by decide)
    refine ⟨?_, iff_of_false (hquoted ▸ Option.some_ne_none _) ht⟩
    by_cases hk : ∀ c ∈ t.conditions, Keyword.ofWord? c.field = none
    · rw [hquoted, read?_compile hf fun _ => hk, Option.some.injEq, Formula.bind_eq_bind_iff,
        Group.atoms_of_render? hf]
      refine forall₂_congr fun c hc => ?_
      rw [reading_eq_iff]
      exact ⟨fun h hbare => ⟨h hbare, hk c hc⟩, fun h hbare => (h hbare).1⟩
    · obtain ⟨c, hc, hkeyword⟩ := not_forall₂.1 hk
      obtain ⟨k, hk⟩ := Option.ne_none_iff_exists'.1 hkeyword
      have hunread : read? (compile t catalog ⟨false⟩).toList = none := by
        rw [read?, parse_keyword rfl hc hk]
        rfl
      rw [hquoted, hunread]
      exact iff_of_false (Option.some_ne_none _) fun h =>
        hkeyword (h c hc (isBare_of_ofWord? hk)).2

/-- The name of a column in a table becomes that of a column without one. -/
theorem qualified_name_not_kept :
    let c : Condition := ⟨"c", "users.age", .equals, .number .zero, none⟩
    let t : Tree := ⟨⟨"r", .and, false, none⟩, [.condition c]⟩
    let isZero : Relation := .compare .equal (.token (.word "0"))
    compile t ⟨[]⟩ ⟨false⟩ = "users.age = 0" ∧ compile t ⟨[]⟩ ⟨true⟩ = "\"users.age\" = 0" ∧
      read? (compile t ⟨[]⟩ ⟨false⟩).toList
        = some (.atom (["users".toList, "age".toList], isZero)) ∧
      read? (compile t ⟨[]⟩ ⟨true⟩).toList = some (.atom (["users.age".toList], isZero)) ∧
      ["users".toList, "age".toList] ≠ ["users.age".toList] := by
  intro c t isZero
  have hf : t.render? (.formula fun _ => .chain) = some (.atom c) := rfl
  have hk : ∀ d ∈ t.conditions, Keyword.ofWord? d.field = none := by decide
  refine ⟨by decide +kernel, by decide +kernel, (read?_compile hf fun _ => hk).trans ?_,
    (read?_compile hf fun _ => hk).trans ?_, by decide⟩
  · decide +kernel
  · decide +kernel

end Criteria.Sql
