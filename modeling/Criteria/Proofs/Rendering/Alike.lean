import Criteria.Export
import Criteria.Proofs.Rendering
import Criteria.Proofs.Tree.Alike

namespace Criteria

variable {α : Type} {r : Rendering α} {R : String → String → Prop}

namespace Rendering

theorem link_congr {ps qs : List (α × Combinator)} (h : ∀ c, link.go c ps = link.go c qs) :
    link ps = link qs := by
  have hand := h .and
  cases ps with
  | nil =>
    cases qs with
    | nil => rfl
    | cons q qs => cases hand
  | cons p ps =>
    cases qs with
    | nil => cases hand
    | cons q qs =>
      obtain ⟨hfirst, hrest⟩ := List.cons.inj hand
      rw [link, link, (Prod.mk.inj hfirst).2, hrest]

theorem combine_congr {h k : Header} {ps qs : List (α × Combinator)}
    (hc : h.combinator = k.combinator) (hn : h.negated = k.negated) (hl : link ps = link qs) :
    r.combine h ps = r.combine k qs := by
  rw [combine, combine, hc, hn, hl]

end Rendering

namespace Node

open Rendering

mutual

theorem render?_alike (hr : ∀ c d : Condition, c.test = d.test → r.condition c = r.condition d)
    (n : Node) {m : Node} (h : Alike R n m) : n.render? r = m.render? r := by
  cases n with
  | condition c =>
    cases h with
    | condition _ htest => exact congrArg some (hr _ _ htest)
  | group k ns =>
    cases h with
    | group _ hc hn hs =>
      rw [render?, render?, combine_congr hc hn (link_congr (go_parts_alike hr ns hc hs)), hn]

theorem go_parts_alike (hr : ∀ c d : Condition, c.test = d.test → r.condition c = r.condition d)
    {h k : Header} (ns : List Node) {ms : List Node} (hc : h.combinator = k.combinator)
    (hs : AllAlike R ns ms) (c : Combinator) :
    link.go c (parts r h ns) = link.go c (parts r k ms) := by
  cases hs with
  | nil => rfl
  | last h =>
    -- what comes after the last child does not get into the links
    simp only [parts, render?_alike hr _ h]
    split <;> rfl
  | cons h he hs =>
    rw [parts, parts, render?_alike hr _ h, he, hc]
    split
    · exact congrArg (List.cons _) (go_parts_alike hr _ hc hs _)
    · exact go_parts_alike hr _ hc hs c

end

end Node

theorem Group.render?_alike
    (hr : ∀ c d : Condition, c.test = d.test → r.condition c = r.condition d) {t u : Tree}
    (h : Node.Alike R t.toNode u.toNode) : t.render? r = u.render? r := by
  cases h with
  | group _ hc hn hs =>
    exact Rendering.combine_congr hc hn
      (Rendering.link_congr (Node.go_parts_alike hr t.children hc hs))

open Condition (test_eq_iff)

variable {t u : Tree}

theorem Readable.compile_alike (h : Node.Alike R t.toNode u.toNode) (catalog : Catalog)
    (o : Options) : compile t catalog o = compile u catalog o := by
  rw [compile, compile, Group.render?_alike (fun c d htest => ?_) h]
  obtain ⟨hfield, hop, hv⟩ := test_eq_iff.1 htest
  simp only [rendering, sentence, hfield, hop, hv]

theorem Sql.compile_alike (h : Node.Alike R t.toNode u.toNode) (catalog : Catalog)
    (o : Options) : compile t catalog o = compile u catalog o := by
  rw [compile, compile, clause?, clause?, Group.render?_alike (fun c d htest => ?_) h]
  obtain ⟨hfield, hop, hv⟩ := test_eq_iff.1 htest
  simp only [rendering, predicate, hfield, hop, hv]

theorem Mongo.compile_alike (h : Node.Alike R t.toNode u.toNode) (catalog : Catalog)
    (o : Options) : compile t catalog o = compile u catalog o := by
  rw [compile, compile, filter?, filter?, Group.render?_alike (fun c d htest => ?_) h]
  obtain ⟨hfield, hop, hv⟩ := test_eq_iff.1 htest
  simp only [rendering, condition, hfield, hop, hv]

end Criteria
