import Criteria.Proofs.Date.Text
import Criteria.Proofs.Edit.Trace
import Criteria.Proofs.Sql.Like
import Criteria.Proofs.Typed

namespace Criteria

namespace Date

theorem isBlank_padded : ∀ width n : Nat, ∀ c ∈ padded width n, Text.isBlank c = false :=
  forall_mem_padded (by decide)

theorem isBlank_isoChars (d : Date) : ∀ c ∈ d.isoChars, Text.isBlank c = false := by
  have hhyphen : Text.isBlank '-' = false := rfl
  have hplus : Text.isBlank '+' = false := rfl
  have hyear : ∀ c ∈ yearChars d.year, Text.isBlank c = false := by
    rw [yearChars]
    split
    · exact List.forall_mem_cons.2 ⟨hhyphen, isBlank_padded _ _⟩
    · split
      · exact List.forall_mem_cons.2 ⟨hplus, isBlank_padded _ _⟩
      · exact isBlank_padded _ _
  simp only [isoChars, List.forall_mem_append, List.forall_mem_cons]
  exact ⟨⟨hyear, hhyphen, isBlank_padded _ _⟩, hhyphen, isBlank_padded _ _⟩

/-- The normal text of a day denotes the day, whatever its year. -/
theorem parse?_iso (d : Date) : parse? d.iso = some d := by
  have hread := hyphened?_isoChars false d []
  rw [List.append_nil] at hread
  rw [parse?, iso, String.toList_ofList, Text.trim_eq_self d.isBlank_isoChars, plain?, hread]
  rfl

end Date

/-- The places of single items in the value of a condition: the value as a whole, one of two bounds,
or a candidate among others. -/
inductive Operator.ItemAt (op : Operator) : (Value → Value) → Prop
  | whole : ItemAt op fun v => v
  | lower (high : Value) (hop : op.isRange = true) : ItemAt op fun v => .list [v, high]
  | upper (low : Value) (hop : op.isRange = true) : ItemAt op fun v => .list [low, v]
  | candidate (before after : List Value) (hop : op.isList = true) :
    ItemAt op fun v => .list (before ++ v :: after)

section

variable {op : Operator} {place : Value → Value} {s u : String}

namespace Operator.ItemAt

variable {β : Type} {g : Value → β}

theorem eq_whole (h : op.ItemAt place) (hrange : op.isRange = false) (hlist : op.isList = false) :
    place = fun v => v := by
  cases h with
  | whole => rfl
  | lower _ hop | upper _ hop => cases hop.symm.trans hrange
  | candidate _ _ hop => cases hop.symm.trans hlist

theorem map_items (h : op.ItemAt place) (hg : g (.text s) = g (.text u)) :
    (place (.text s)).items.map g = (place (.text u)).items.map g := by
  cases h with
  | whole | lower | upper => simp only [Value.items, List.map_cons, List.map_nil, hg]
  | candidate => simp only [Value.items, List.map_append, List.map_cons, hg]

theorem map_bounds (h : op.ItemAt place) (hrange : op.isRange = true)
    (hg : g (.text s) = g (.text u)) :
    let bounds (v : Value) := v.range?.getD (v, v)
    g (bounds (place (.text s))).1 = g (bounds (place (.text u))).1 ∧
      g (bounds (place (.text s))).2 = g (bounds (place (.text u))).2 := by
  cases h with
  | whole | lower | upper =>
    simp only [Value.range?, Option.getD_none, Option.getD_some, hg, and_self]
  | candidate before after hlist => cases hlist.symm.trans (Lint.isList_of_isRange hrange)

end Operator.ItemAt

variable {catalog : Catalog} {field : Option Field} {f : Field}

theorem Sql.test_itemAt (hop : op.isMatch = false) (h : op.ItemAt place)
    (hl : literal field (.text s) = literal field (.text u)) :
    test field op (place (.text s)) = test field op (place (.text u)) := by
  cases op
  case contains | startsWith | endsWith => cases hop
  case between | notBetween =>
    have hbounds := h.map_bounds rfl hl
    simp only [test, bounds, hbounds]
  case isIn | notIn => simp only [test, h.map_items hl]
  all_goals
    obtain rfl := h.eq_whole rfl rfl
    simp only [test, hl]

theorem Mongo.condition_itemAt {c : Condition} (hop : c.operator.isMatch = false)
    (h : c.operator.ItemAt place) (o : Options)
    (hv : value (catalog.get? c.field) (.text s) = value (catalog.get? c.field) (.text u)) :
    condition catalog o { c with value := place (.text s) }
      = condition catalog o { c with value := place (.text u) } := by
  obtain ⟨id, name, op, w, edge⟩ := c
  dsimp only at hop h hv ⊢
  cases op
  case contains | startsWith | endsWith => cases hop
  case between | notBetween =>
    have hbounds := h.map_bounds rfl hv
    simp only [condition, range, hbounds]
  case isIn | notIn => simp only [condition, h.map_items hv]
  all_goals
    obtain rfl := h.eq_whole rfl rfl
    simp only [condition, hv]

theorem Readable.value_itemAt (h : op.ItemAt place) (o : Options)
    (hs : scalar o field (.text s) = scalar o field (.text u)) :
    value o field op (place (.text s)) = value o field op (place (.text u)) := by
  cases hrange : op.isRange with
  | false => simp only [value, hrange, Bool.false_eq_true, if_false, h.map_items hs]
  | true =>
    cases h with
    | whole | lower | upper =>
      simp only [value, hrange, if_true, Value.range?, Value.items, List.map_cons, hs]
    | candidate before after hlist => cases hlist.symm.trans (Lint.isList_of_isRange hrange)

/-- Two trees that no output tells apart. -/
structure Group.SameOutputs (catalog : Catalog) (t u : Tree) : Prop where
  sql (o : Sql.Options) : Sql.compile t catalog o = Sql.compile u catalog o
  mongo (o : Mongo.Options) : Mongo.compile t catalog o = Mongo.compile u catalog o
  readable (o : Readable.Options) : Readable.compile t catalog o = Readable.compile u catalog o

/-- Texts that are the same number, day or Boolean on the field of a condition are exchanged in a
tree without a trace, unless they are matched as texts. -/
theorem Group.sameOutputs_of_typed {c : Condition} {a : Typed} {frames : List Frame} {t t' : Tree}
    (hf : catalog.get? c.field = some f) (hop : c.operator.isMatch = false)
    (hplace : c.operator.ItemAt place) (hs : f.typed? (.text s) = some a)
    (hu : f.typed? (.text u) = some a)
    (ht : t.toNode = (Node.condition { c with value := place (.text s) }).within frames)
    (ht' : t'.toNode = (Node.condition { c with value := place (.text u) }).within frames) :
    SameOutputs catalog t t' := by
  have hsql : Sql.literal (catalog.get? c.field) (.text s)
      = Sql.literal (catalog.get? c.field) (.text u) :=
    hf ▸ (Field.written_typed hs {}).1.trans (Field.written_typed hu {}).1.symm
  have hmongo : Mongo.value (catalog.get? c.field) (.text s)
      = Mongo.value (catalog.get? c.field) (.text u) :=
    hf ▸ (Field.written_typed hs {}).2.1.trans (Field.written_typed hu {}).2.1.symm
  have hreadable (o : Readable.Options) : Readable.scalar o (catalog.get? c.field) (.text s)
      = Readable.scalar o (catalog.get? c.field) (.text u) :=
    hf ▸ (Field.written_typed hs o).2.2.trans (Field.written_typed hu o).2.2.symm
  refine ⟨fun o => ?_, fun o => ?_, fun o => ?_⟩
  · have hsame : SameParts (Sql.rendering catalog o) t t' := by
      refine .of_condition ht ht' ?_ rfl
      simp only [Sql.rendering, Sql.predicate, Sql.test_itemAt hop hplace hsql]
    rw [Sql.compile, Sql.compile, Sql.clause?, Sql.clause?, hsame.render?_eq]
  · have hsame : SameParts (Mongo.rendering catalog o) t t' :=
      .of_condition ht ht' (Mongo.condition_itemAt hop hplace o hmongo) rfl
    rw [Mongo.compile, Mongo.compile, Mongo.filter?, Mongo.filter?, hsame.render?_eq]
  · have hsame : SameParts (Readable.rendering catalog o) t t' := by
      refine .of_condition ht ht' ?_ rfl
      simp only [Readable.rendering, Readable.sentence,
        Readable.value_itemAt hplace o (hreadable o)]
    rw [Readable.compile, Readable.compile, hsame.render?_eq]

end

/-- The value made from a day that a text denotes is a text that denotes it too. The two are
exchanged in any condition of a tree on a field of days, as long as they are not matched as texts,
and all outputs stay the same. -/
theorem dates_normalized {s : String} {d : Date} (hs : Date.parse? s = some d) :
    (∃ normal, Value.ofDate d = .text normal ∧ Date.parse? normal = some d) ∧
      ∀ (catalog : Catalog) (c : Condition) (f : Field) (place : Value → Value)
        (frames : List Frame) (t u : Tree), catalog.get? c.field = some f → f.type = .date →
        c.operator.isMatch = false → c.operator.ItemAt place →
        t.toNode = (Node.condition { c with value := place (.text s) }).within frames →
        u.toNode = (Node.condition { c with value := place (.ofDate d) }).within frames →
        t.SameOutputs catalog u := by
  refine ⟨⟨d.iso, rfl, d.parse?_iso⟩, ?_⟩
  intro catalog c f place frames t u hf hdate hop hplace ht hu
  have htyped {text : String} (h : Date.parse? text = some d) :
      f.typed? (.text text) = some (.date d) := by
    simp only [Field.typed?, hdate, Value.date?, h, Option.map_some]
  exact Group.sameOutputs_of_typed hf hop hplace (htyped hs) (htyped d.parse?_iso) ht hu

/-- A day before the common era as an upper bound, inside of a negated group. -/
theorem dates_normalized_bound :
    let d : Date := ⟨-5, 3, 1, by decide, by decide, by decide⟩
    let f : Field := ⟨"due", "Due", .date, none, [], none⟩
    let c (high : Value) : Condition :=
      ⟨"c", "due", .notBetween, .list [.text "-9-1-1", high], none⟩
    let t (high : Value) : Tree :=
      ⟨⟨"r", .and, false, none⟩, [.group ⟨"g", .or, true, none⟩ [.condition (c high)]]⟩
    Date.parse? " -5-3-01 " = some d ∧
      Value.ofDate d = .text "-0005-03-01" ∧ Date.parse? "-0005-03-01" = some d ∧
      Sql.compile (t (.text " -5-3-01 ")) ⟨[f]⟩ {}
        = "NOT (due NOT BETWEEN '-0009-01-01' AND '-0005-03-01')" := by
  intro d f c t
  have hs : Date.parse? " -5-3-01 " = some d := by decide +kernel
  obtain ⟨⟨normal, hnormal, hread⟩, houtputs⟩ := dates_normalized hs
  have hiso : Value.ofDate d = .text "-0005-03-01" := by decide +kernel
  obtain rfl : "-0005-03-01" = normal := Value.text.inj (hiso.symm.trans hnormal)
  have hsame : (t (.text " -5-3-01 ")).SameOutputs ⟨[f]⟩ (t (.ofDate d)) :=
    houtputs ⟨[f]⟩ (c .null) f (fun v => .list [.text "-9-1-1", v])
      [⟨⟨"r", .and, false, none⟩, [], []⟩, ⟨⟨"g", .or, true, none⟩, [], []⟩] _ _ rfl rfl rfl
      (.upper _ rfl) rfl rfl
  refine ⟨hs, hiso, hread, (hsame.sql {}).trans ?_⟩
  decide +kernel

end Criteria
