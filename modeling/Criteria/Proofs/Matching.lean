import Criteria.Proofs.Mongo.Search

namespace Criteria

/-- A condition that matches texts has a LIKE of its own in the SQL of a tree. A text matches it if
what the operator finds in the text is matched by the value, taken for a pattern. So the texts with
the value itself are among those that match, and they are all of them if and only if there is no
percent sign and no underscore in the value. The regular expression in the filter of the condition
finds the value as it is and, but for the case of letters, nothing else. -/
theorem like_takes_values_for_patterns (t : Tree) (catalog : Catalog) (sql : Sql.Options)
    (mongo : Mongo.Options) (c : Condition) (hc : c ∈ t.conditions)
    (hop : c.operator.isMatch = true) :
    let value := c.value.plain.toList
    let pattern := Sql.likePattern c.operator c.value.plain
    (∃ ts, Sql.lex (Sql.compile t catalog sql).toList = some ts ∧
      [(Sql.Column.ofName sql.quoteAllIdentifiers c.field).token, .word "LIKE", .text pattern]
        <:+: ts) ∧
    (∀ s, Sql.like pattern.toList s = true ↔
      ∃ u, Sql.like value u = true ∧ c.operator.Finds u s) ∧
    (∀ s, c.operator.Finds value s → Sql.like pattern.toList s = true) ∧
    ((∀ s, Sql.like pattern.toList s = true ↔ c.operator.Finds value s) ↔
      ∀ char ∈ value, Sql.isWildcard char = false) ∧
    ∃ p x, Mongo.regex? (Mongo.condition catalog mongo c).toJson = some p ∧
      Mongo.search? p.toList = some x ∧ ∀ s, x.Finds s ↔ c.operator.Finds value s := by
  intro value pattern
  obtain ⟨ts, hlex, hinfix⟩ := Sql.exists_lex_infix hc catalog sql
  rw [Sql.tokens_of_isMatch hop] at hinfix
  obtain ⟨p, hp, hx⟩ := Mongo.search_condition catalog mongo hop
  refine ⟨⟨ts, hlex, hinfix⟩, fun s => Sql.like_likePattern hop, fun s hs => ?_,
    Sql.like_iff_finds hop c.value.plain, p, _, hp, hx, Mongo.finds_searchOf hop c.value.plain⟩
  exact (Sql.like_likePattern hop).2 ⟨value, Sql.like_self value, hs⟩

/-- An underscore in a value that a text is to end with, beside a quote and a point. -/
theorem like_takes_values_for_patterns_underscore :
    let c : Condition := ⟨"c", "name", .endsWith, .text "'s_x.", none⟩
    let t : Tree := ⟨⟨"r", .or, true, none⟩, [.condition c]⟩
    c ∈ t.conditions ∧ c.operator.isMatch = true ∧
      Sql.compile t ⟨[]⟩ {} = "NOT (name LIKE '%''s_x.')" ∧
      Mongo.regex? (Mongo.condition ⟨[]⟩ {} c).toJson = some "'s_x\\.$" ∧
      ¬ ∀ s, Sql.like "%'s_x.".toList s = true ↔ "'s_x.".toList <:+ s := by
  intro c t
  have hc : c ∈ t.conditions := List.mem_singleton.2 rfl
  have hop : c.operator.isMatch = true := by decide
  obtain ⟨-, -, -, hiff, -⟩ := like_takes_values_for_patterns t ⟨[]⟩ {} {} c hc hop
  have hunderscore : '_' ∈ "'s_x.".toList := by decide
  refine ⟨hc, hop, by decide +kernel, by decide +kernel, fun h => ?_⟩
  exact absurd (hiff.1 h '_' hunderscore) (by decide)

/-- A text that does not start with the value, but does with what comes before the percent sign. -/
theorem percent_in_value :
    let c : Condition := ⟨"c", "name", .startsWith, .text "50%", none⟩
    let t : Tree := ⟨⟨"r", .and, false, none⟩, [.condition c]⟩
    let catalog : Catalog := ⟨[⟨"name", "Name", .string, none, [], none⟩]⟩
    Sql.compile t catalog {} = "name LIKE '50%%'" ∧
      Sql.like "50%%".toList "501".toList = true ∧
      ¬ c.operator.Finds c.value.plain.toList "501".toList ∧
      Mongo.regex? (Mongo.condition catalog {} c).toJson = some "^50%" := by
  intro c t catalog
  have hfinds : ¬ "50%".toList <+: "501".toList := by decide
  exact ⟨by decide +kernel, by decide, hfinds, by decide +kernel⟩

end Criteria
