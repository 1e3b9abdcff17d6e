import Criteria.Proofs.Sql.Tokens
import Criteria.Proofs.Typed

namespace Criteria.Sql

/-- A piece of what a tree is in SQL, which is to be read as one token: a token that does not depend
on fields and values, the name of a field, a value that a field is compared with, or a text. -/
inductive Piece where
  | fixed (t : Token)
  | field (name : String)
  | value (field : String) (v : Value)
  | text (s : String)

/-- Whether a token says a value on a field, if it has one. A value that is not of the type of its
field is said as its plain text; without a field each value is said as what it is. -/
inductive Says : Option Field → Value → Token → Prop where
  | typed {f : Field} {v : Value} {a : Typed} {t : Token} (hv : f.typed? v = some a)
    (ht : a.IsSaidBy t) : Says (some f) v t
  | plain {f : Field} {v : Value} (hv : f.typed? v = none) : Says (some f) v (.text v.plain)
  | number {x : Number} {t : Token} (ht : (Typed.number x).IsSaidBy t) : Says none (.number x) t
  | bool {b : Bool} {t : Token} (ht : (Typed.bool b).IsSaidBy t) : Says none (.bool b) t
  | null : Says none .null (.word "NULL")
  | text (s : String) : Says none (.text s) (.text s)
  | list (vs : List Value) : Says none (.list vs) (.text (Value.list vs).plain)

namespace Piece

def word (s : String) : Piece := .fixed (.word s)

/-- Whether a token is what a piece is to be read as. A name stands as a bare word if it is one and
names need not be quoted. -/
inductive IsReadAs (catalog : Catalog) (options : Options) : Piece → Token → Prop where
  | fixed (t : Token) : IsReadAs catalog options (.fixed t) t
  | bare {name : String} (hforce : options.quoteAllIdentifiers = false) (hne : name ≠ "")
    (hword : ∀ c ∈ name.toList, isWordChar c = true) :
    IsReadAs catalog options (.field name) (.word name)
  | quoted {name : String} (h : options.quoteAllIdentifiers = true ∨ name = "" ∨
      ∃ c ∈ name.toList, isWordChar c = false) :
    IsReadAs catalog options (.field name) (.name name)
  | value {field : String} {v : Value} {t : Token} (h : Says (catalog.get? field) v t) :
    IsReadAs catalog options (.value field v) t
  | text (s : String) : IsReadAs catalog options (.text s) (.text s)

/-- The bounds of a range. A value that is no range is both of them. -/
def bounds (field : String) : Value → List Piece
  | .list [low, high] => [word "BETWEEN", .value field low, word "AND", .value field high]
  | v => [word "BETWEEN", .value field v, word "AND", .value field v]

/-- The items of a list. A value that is no list is the only one. -/
def items (field : String) (v : Value) : List Piece :=
  let items : List Piece := match v with
    | .list vs => vs.map (.value field)
    | v => [.value field v]
  word "IN" :: .fixed .opening :: items.intersperse (.fixed .comma) ++ [.fixed .closing]

def ofCondition (c : Condition) : List Piece :=
  let column : Piece := .field c.field
  let compare (k : Comparison) : List Piece :=
    [column, .fixed (.comparison k), .value c.field c.value]
  let like (pattern : String) : List Piece := [column, word "LIKE", .text pattern]
  match c.operator with
  | .equals => compare .equal
  | .notEquals => compare .notEqual
  | .greaterThan | .after => compare .greater
  | .greaterThanOrEqual => compare .greaterOrEqual
  | .lessThan | .before => compare .less
  | .lessThanOrEqual => compare .lessOrEqual
  | .contains => like ("%" ++ c.value.plain ++ "%")
  | .startsWith => like (c.value.plain ++ "%")
  | .endsWith => like ("%" ++ c.value.plain)
  | .isEmpty =>
    [.fixed .opening, column, word "IS", word "NULL", word "OR", column,
      .fixed (.comparison .equal), .text "", .fixed .closing]
  | .isNotEmpty =>
    [.fixed .opening, column, word "IS", word "NOT", word "NULL", word "AND", column,
      .fixed (.comparison .notEqual), .text "", .fixed .closing]
  | .isTrue => [column, .fixed (.comparison .equal), word "TRUE"]
  | .isFalse => [column, .fixed (.comparison .equal), word "FALSE"]
  | .between => column :: bounds c.field c.value
  | .notBetween => column :: word "NOT" :: bounds c.field c.value
  | .isIn => column :: items c.field c.value
  | .notIn => column :: word "NOT" :: items c.field c.value

def ofCombinator : Combinator → Piece
  | .and => word "AND"
  | .or => word "OR"

def enclosed (ps : List Piece) : List Piece := .fixed .opening :: ps ++ [.fixed .closing]

mutual

/-- The pieces of a node inside a group. A node without conditions has none. -/
def ofNode : Node → List Piece
  | .condition c => ofCondition c
  | .group h children =>
    if Node.conditionsOf children = [] then []
    else if h.negated then word "NOT" :: enclosed (ofNodes h children)
    else enclosed (ofNodes h children)

/-- The pieces of the children of a group that hold a condition. Between two of them stands the
combinator of the left one, or else that of the group. -/
def ofNodes (h : Header) : List Node → List Piece
  | [] => []
  | n :: ns =>
    if n.conditions = [] then ofNodes h ns
    else if Node.conditionsOf ns = [] then ofNode n
    else ofNode n ++ ofCombinator (n.edge.getD h.combinator) :: ofNodes h ns

end

/-- The pieces of a tree. Parentheses stand around its root only if that is negated. -/
def ofTree (t : Tree) : List Piece :=
  if t.header.negated then ofNode t.toNode else ofNodes t.header t.children

end Piece

theorem says_literal (field : Option Field) (v : Value) : Says field v (literal field v).token := by
  cases field with
  | none =>
    cases v with
    | null => exact .null
    | bool b => exact .bool (.bool b)
    | number x => exact .number (Typed.number x).isSaidBy_sql
    | text s => exact .text s
    | list vs => exact .list vs
  | some f =>
    cases hv : f.typed? v with
    | some a =>
      rw [(Field.written_typed hv {}).1]
      exact .typed hv a.isSaidBy_sql
    | none =>
      have hplain : literal (some f) v = .text v.plain := by
        obtain ⟨name, label, type, operators, options, constraints⟩ := f
        cases type <;> simp_all [Field.typed?, literal]
      rw [hplain]
      exact .plain hv

namespace Piece

variable {catalog : Catalog} {options : Options}

theorem isReadAs_field (catalog : Catalog) (options : Options) (name : String) :
    (field name).IsReadAs catalog options
      (Column.ofName options.quoteAllIdentifiers name).token := by
  rw [Column.ofName]
  split
  · next h =>
    simp only [isBare, Bool.and_eq_true, Bool.not_eq_true', String.isEmpty_eq_false_iff] at h
    exact .bare h.2 h.1.1 (List.all_eq_true.1 h.1.2)
  · next h =>
    apply IsReadAs.quoted
    by_contra! hbare
    refine h ?_
    have hword : name.toList.all isWordChar = true := List.all_eq_true.2 fun c hc =>
      by simpa using hbare.2.2 c hc
    simp only [isBare, Bool.and_eq_true, Bool.not_eq_true', String.isEmpty_eq_false_iff]
    exact ⟨⟨hbare.2.1, hword⟩, by simpa using hbare.1⟩

theorem isReadAs_value (catalog : Catalog) (options : Options) (name : String) (v : Value) :
    (value name v).IsReadAs catalog options (literal (catalog.get? name) v).token :=
  .value (says_literal _ v)

theorem bounds_read (catalog : Catalog) (options : Options) (name : String) (v : Value) :
    List.Forall₂ (IsReadAs catalog options) (bounds name v)
      [.word "BETWEEN", (Sql.bounds (catalog.get? name) v).1.token, .word "AND",
        (Sql.bounds (catalog.get? name) v).2.token] := by
  have hvalue := isReadAs_value catalog options name
  have hbounds (low high : Value) :
      List.Forall₂ (IsReadAs catalog options)
        [word "BETWEEN", .value name low, word "AND", .value name high]
        [.word "BETWEEN", (literal (catalog.get? name) low).token, .word "AND",
          (literal (catalog.get? name) high).token] :=
    .cons (.fixed _) (.cons (hvalue low) (.cons (.fixed _) (.cons (hvalue high) .nil)))
  rw [bounds.eq_def]
  split
  · exact hbounds _ _
  · next hrange =>
    have hnone : v.range? = none := by
      rw [Value.range?.eq_def]
      split
      · exact absurd rfl (hrange _ _)
      · rfl
    rw [Sql.bounds, hnone]
    exact hbounds v v

theorem intersperse_read {ps : List Piece} {ts : List Token}
    (h : List.Forall₂ (IsReadAs catalog options) ps ts) :
    List.Forall₂ (IsReadAs catalog options) (ps.intersperse (.fixed .comma)) (commas ts) := by
  induction h with
  | nil => exact .nil
  | @cons p t ps ts hp hps ih =>
    cases hps with
    | nil => exact .cons hp .nil
    | cons hq hqs =>
      rw [List.intersperse_cons_cons]
      exact .cons hp (.cons (.fixed _) ih)

theorem items_read (catalog : Catalog) (options : Options) (name : String) (v : Value) :
    List.Forall₂ (IsReadAs catalog options) (items name v)
      (.word "IN" :: .opening ::
        commas ((v.items.map (literal (catalog.get? name))).map Literal.token) ++ [.closing]) := by
  have hvalues (vs : List Value) : List.Forall₂ (IsReadAs catalog options)
      (vs.map (.value name)) ((vs.map (literal (catalog.get? name))).map Literal.token) := by
    rw [List.map_map, List.forall₂_map_left_iff, List.forall₂_map_right_iff, List.forall₂_same]
    exact fun v _ => isReadAs_value catalog options name v
  have hitems : List.Forall₂ (IsReadAs catalog options)
      (match v with | .list vs => vs.map (.value name) | v => [.value name v])
      ((v.items.map (literal (catalog.get? name))).map Literal.token) := by
    cases v with
    | list vs => exact hvalues vs
    | _ => exact hvalues [_]
  have hclosing : List.Forall₂ (IsReadAs catalog options) [.fixed .closing] [.closing] :=
    .cons (.fixed _) .nil
  exact .cons (.fixed _) (.cons (.fixed _) (List.rel_append (intersperse_read hitems) hclosing))

theorem ofCondition_read (catalog : Catalog) (options : Options) (c : Condition) :
    List.Forall₂ (IsReadAs catalog options) (ofCondition c)
      (predicate catalog options c).tokens := by
  have hcolumn := isReadAs_field catalog options c.field
  have hvalue := isReadAs_value catalog options c.field c.value
  have hbounds := bounds_read catalog options c.field c.value
  have hitems := items_read catalog options c.field c.value
  obtain ⟨id, field, operator, value, edge⟩ := c
  cases operator with
  | equals | notEquals | greaterThan | greaterThanOrEqual | lessThan | lessThanOrEqual | before
  | after => exact .cons hcolumn (.cons (.fixed _) (.cons hvalue .nil))
  | contains | startsWith | endsWith =>
    exact .cons hcolumn (.cons (.fixed _) (.cons (.text _) .nil))
  | isTrue | isFalse => exact .cons hcolumn (.cons (.fixed _) (.cons (.fixed _) .nil))
  | isEmpty | isNotEmpty =>
    simp [ofCondition, Sql.predicate, test, Predicate.tokens, word, hcolumn, IsReadAs.fixed,
      IsReadAs.text]
  | between => exact .cons hcolumn hbounds
  | notBetween => exact .cons hcolumn (.cons (.fixed _) hbounds)
  | isIn => exact .cons hcolumn hitems
  | notIn => exact .cons hcolumn (.cons (.fixed _) hitems)

theorem enclosed_read {ps : List Piece} {ts : List Token}
    (h : List.Forall₂ (IsReadAs catalog options) ps ts) :
    List.Forall₂ (IsReadAs catalog options) (enclosed ps) (.opening :: ts ++ [.closing]) :=
  .cons (.fixed _) (List.rel_append h (.cons (.fixed _) .nil))

theorem ofCombinator_read (k : Combinator) :
    (ofCombinator k).IsReadAs catalog options (.word k.name) := by
  cases k <;> exact .fixed _

mutual

theorem ofNode_read (n : Node) {c : Clause} (h : n.render? (rendering catalog options) = some c) :
    List.Forall₂ (IsReadAs catalog options) (ofNode n) c.tokens := by
  cases n with
  | condition d =>
    cases h
    exact ofCondition_read catalog options d
  | group header children =>
    obtain ⟨joined, hjoined, rfl⟩ := Option.map_eq_some_iff.1 h
    obtain ⟨⟨first, rest⟩, hlink, rfl⟩ := Option.map_eq_some_iff.1 hjoined
    have hchildren := ofNodes_read header children hlink
    have hne : Node.conditionsOf children ≠ [] := by
      intro hnone
      rw [(Node.parts_eq_nil header children).2 hnone] at hlink
      cases hlink
    rw [ofNode, if_neg hne]
    cases hn : header.negated with
    | true => exact .cons (.fixed _) (enclosed_read hchildren)
    | false => exact enclosed_read hchildren

theorem ofNodes_read (header : Header) (ns : List Node) {first : Clause}
    {rest : List (Combinator × Clause)}
    (h : Rendering.link (Node.parts (rendering catalog options) header ns) = some (first, rest)) :
    List.Forall₂ (IsReadAs catalog options) (ofNodes header ns)
      (Clause.joined first rest).tokens := by
  cases ns with
  | nil => cases h
  | cons n ns =>
    cases hn : n.render? (rendering catalog options) with
    | none =>
      rw [Node.parts, hn] at h
      rw [ofNodes, if_pos ((Node.render?_eq_none n).1 hn)]
      exact ofNodes_read header ns h
    | some c =>
      have hne : n.conditions ≠ [] := fun hnone => by
        cases hn.symm.trans ((Node.render?_eq_none n).2 hnone)
      have hfirst := ofNode_read n hn
      rw [Node.parts, hn] at h
      rw [ofNodes, if_neg hne]
      cases hps : Node.parts (rendering catalog options) header ns with
      | nil =>
        rw [hps] at h
        cases h
        rw [if_pos ((Node.parts_eq_nil header ns).1 hps), Rendering.link.go, Clause.tokens,
          Clause.tokensAfter, List.append_nil]
        exact hfirst
      | cons p ps =>
        have hrest : Node.conditionsOf ns ≠ [] := fun hnone => by
          cases hps.symm.trans ((Node.parts_eq_nil header ns).2 hnone)
        have hothers := ofNodes_read header ns (congrArg Rendering.link hps)
        rw [hps] at h
        cases h
        rw [if_neg hrest]
        exact List.rel_append hfirst (.cons (ofCombinator_read _) hothers)

end

theorem ofNodes_eq_nil {header : Header} {ns : List Node} (h : Node.conditionsOf ns = []) :
    ofNodes header ns = [] := by
  induction ns with
  | nil => rfl
  | cons n ns ih =>
    obtain ⟨hn, hns⟩ := List.append_eq_nil_iff.1 h
    rw [ofNodes, if_pos hn, ih hns]

theorem ofTree_eq_nil {t : Tree} (h : t.conditions = []) : ofTree t = [] := by
  rw [ofTree]
  split
  · exact if_pos h
  · exact ofNodes_eq_nil h

theorem ofTree_read {t : Tree} {c : Clause} (h : clause? t catalog options = some c) :
    List.Forall₂ (IsReadAs catalog options) (ofTree t) c.tokens := by
  rw [ofTree]
  split
  · next hn =>
    refine ofNode_read t.toNode ?_
    rw [clause?, Group.render?] at h
    rw [Group.toNode, Node.render?, h, Option.map_some, if_pos hn]
  · next hn =>
    obtain ⟨⟨first, rest⟩, hlink, rfl⟩ := Option.map_eq_some_iff.1 h
    have hchildren := ofNodes_read t.header t.children hlink
    dsimp only
    rw [if_neg hn]
    exact hchildren

end Piece

/-- Compiled text is read as one token for each piece of the tree, whatever the names and values in
it are. -/
theorem lex_compile (t : Tree) (catalog : Catalog) (options : Options) :
    ∃ ts, lex (compile t catalog options).toList = some ts ∧
      List.Forall₂ (Piece.IsReadAs catalog options) (Piece.ofTree t) ts := by
  cases h : clause? t catalog options with
  | some c => exact ⟨c.tokens, lex_of_clause? h, Piece.ofTree_read h⟩
  | none =>
    have hnil : Piece.ofTree t = [] := Piece.ofTree_eq_nil ((Group.render?_eq_none t).1 h)
    refine ⟨[], ?_, hnil ▸ .nil⟩
    rw [compile, h, Option.map_none, Option.getD_none, String.toList_empty, lex]

/-- Marks, minus signs and keywords in names and values, some of them not of the type of their
field. -/
theorem lex_compile_marks :
    let catalog : Catalog := ⟨[⟨"age", "Age", .number, none, [], none⟩,
      ⟨"ok", "Ok", .boolean, none, [], none⟩, ⟨"day", "Day", .date, none, [], none⟩]⟩
    let t : Tree := ⟨⟨"r", .and, true, none⟩,
      [.condition ⟨"a", "first \"name\"", .equals, .text "x' OR 1=1 --", none⟩,
        .condition ⟨"b", "age", .notBetween, .list [.text " -2.50", .text "'"], some .or⟩,
        .group ⟨"g", .or, false, none⟩
          [.condition ⟨"c", "ok", .equals, .text "true", none⟩,
            .condition ⟨"d", "day", .before, .text "2024-01-31", none⟩],
        .condition ⟨"e", "-- t", .contains, .text "')", none⟩,
        .condition ⟨"f", "AND", .isIn, .list [.null, .list [.text "a", .text "b'"]], none⟩]⟩
    let ts : List Token :=
      [.word "NOT", .opening, .name "first \"name\"", .comparison .equal, .text "x' OR 1=1 --",
        .word "AND", .word "age", .word "NOT", .word "BETWEEN", .word "-2.5", .word "AND", .text "'",
        .word "OR", .opening, .word "ok", .comparison .equal, .word "TRUE", .word "OR", .word "day",
        .comparison .less, .text "2024-01-31", .closing, .word "AND", .name "-- t", .word "LIKE",
        .text "%')%", .word "AND", .word "AND", .word "IN", .opening, .word "NULL", .comma,
        .text "a, b'", .closing, .closing]
    compile t catalog {} = "NOT (\"first \"\"name\"\"\" = 'x'' OR 1=1 --' AND " ++
      "age NOT BETWEEN -2.5 AND '''' OR (ok = TRUE OR day < '2024-01-31') AND " ++
      "\"-- t\" LIKE '%'')%' AND AND IN (NULL, 'a, b'''))" ∧
      lex (compile t catalog {}).toList = some ts ∧
      List.Forall₂ (Piece.IsReadAs catalog {}) (Piece.ofTree t) ts := by
  intro catalog t ts
  obtain ⟨us, hlex, hpieces⟩ := lex_compile t catalog {}
  have hclause : (clause? t catalog {}).map Clause.tokens = some ts := by decide +kernel
  obtain ⟨c, hc, hts⟩ := Option.map_eq_some_iff.1 hclause
  have hus : us = ts := Option.some.inj (hlex.symm.trans (hts ▸ lex_of_clause? hc))
  rw [hus] at hlex hpieces
  exact ⟨by decide +kernel, hlex, hpieces⟩

end Criteria.Sql
