import Criteria.Proofs.Edit.Depth

namespace Criteria

namespace Group

/-- Whether a node stands in a tree, within that many groups. The root stands within none. -/
def HasAt (t : Tree) (depth : Nat) (n : Node) : Prop :=
  ∃ c, t.toNode = n.within c ∧ c.length = depth

/-- Whether a node stands in a tree. The root does. -/
def Has (t : Tree) (n : Node) : Prop := ∃ c, t.toNode = n.within c

/-- Why an id names no group of a tree. -/
inductive NoGroup (t : Tree) (id : String) : EditError → Prop
  | condition {c : Condition} (has : t.Has (.condition c)) (named : c.id = id) :
    NoGroup t id (.notAGroup id)
  | absent (absent : id ∉ t.ids) : NoGroup t id (.groupNotFound id)

/-- Why an id names no condition of a tree. -/
inductive NoCondition (t : Tree) (id : String) : EditError → Prop
  | group {g : Group} (has : t.Has g.toNode) (named : g.id = id) :
    NoCondition t id (.notACondition id)
  | absent (absent : id ∉ t.ids) : NoCondition t id (.nodeNotFound id)

/-- Why an id names no node below the root. -/
inductive NoPlace (t : Tree) (id : String) : EditError → Prop
  | root (named : t.id = id) : NoPlace t id .root
  | absent (absent : id ∉ t.ids) : NoPlace t id (.nodeNotFound id)

/-- Why a node cannot be moved to a group. -/
inductive NoMove (t : Tree) (id target : String) : EditError → Prop
  | place {e : EditError} (place : t.NoPlace id e) : NoMove t id target e
  | absent (root : t.id ≠ id) (present : id ∈ t.ids) (absent : target ∉ t.ids) :
    NoMove t id target (.groupNotFound target)
  | cycle {n : Node} (root : t.id ≠ id) (has : t.Has n) (named : n.id = id)
    (inside : target ∈ n.ids) : NoMove t id target .cycle
  | condition {n : Node} {c : Condition} (root : t.id ≠ id) (has : t.Has n) (named : n.id = id)
    (outside : target ∉ n.ids) (hasTarget : t.Has (.condition c)) (namedTarget : c.id = target) :
    NoMove t id target (.notAGroup target)

/-- Why there is no room for a group below another one: some group of it would lie too deep. -/
inductive NoRoom (max : Option Nat) (t : Tree) (id : String) (child : Group) : EditError → Prop
  | deep {g : Group} {depth limit k : Nat} (has : t.HasAt depth g.toNode) (named : g.id = id)
    (limited : max = some limit) (mem : k ∈ child.toNode.groupDepths (depth + 1))
    (deep : limit < k) : NoRoom max t id child (.tooDeep limit)

variable {t t' g : Tree} {id target : String} {e : EditError} {n m : Node} {p : Place}

theorem find?_iff_has (hd : t.ids.Nodup) : t.toNode.find? id = some n ↔ t.Has n ∧ n.id = id := by
  constructor
  · intro h
    obtain ⟨hid, c, ht, -⟩ := Node.exists_within_of_find? _ h
    exact ⟨⟨c, ht⟩, hid⟩
  · rintro ⟨⟨c, ht⟩, rfl⟩
    rw [ids, ht] at hd
    rw [ht, Node.find?_within_of_nodup hd]

theorem Has.unique (hd : t.ids.Nodup) (hn : t.Has n) (hm : t.Has m) (h : n.id = m.id) : n = m := by
  have hn := (find?_iff_has hd).2 ⟨hn, h⟩
  have hm := (find?_iff_has hd).2 ⟨hm, rfl⟩
  exact Option.some.inj (hn.symm.trans hm)

theorem Has.ids_subset (h : t.Has n) : n.ids ⊆ t.ids := by
  obtain ⟨c, ht⟩ := h
  rw [ids, ht, Node.ids_within]
  exact fun _ hin => List.mem_append_left _ (List.mem_append_right _ hin)

theorem Has.mem_ids (h : t.Has n) : n.id ∈ t.ids := h.ids_subset n.id_mem_ids

theorem exists_has (h : id ∈ t.ids) : ∃ n, t.Has n ∧ n.id = id := by
  obtain ⟨n, c, ht, hid⟩ := Node.exists_within_of_mem h
  exact ⟨n, ⟨c, ht⟩, hid⟩

theorem has_root (t : Tree) : t.Has t.toNode := ⟨[], rfl⟩

theorem findGroup?_of_has (hd : t.ids.Nodup) (h : t.Has n) : t.findGroup? n.id = n.toGroup? := by
  have hn : t.toNode.find? n.id = some n := (find?_iff_has hd).2 ⟨h, rfl⟩
  cases n with
  | group k children => exact findGroup?_eq_some.2 hn
  | condition c =>
    refine Option.eq_none_iff_forall_ne_some.2 fun g hg => ?_
    cases hn.symm.trans (findGroup?_eq_some.1 hg)

theorem findCondition?_iff_has (hd : t.ids.Nodup) {c : Condition} :
    t.findCondition? id = some c ↔ t.Has (.condition c) ∧ c.id = id := by
  have hiff : t.toNode.find? id = some (.condition c) ↔ t.Has (.condition c) ∧ c.id = id :=
    find?_iff_has hd
  rw [← hiff, find?_toNode, findCondition?]
  split
  · next hroot =>
    have hnone : t.find? id = none :=
      (Node.findAmong?_eq_none _).2 (hroot ▸ (List.nodup_cons.1 hd).1)
    simp [hnone, toNode]
  · cases t.find? id with
    | none => simp
    | some n => cases n <;> simp [Node.toCondition?]

theorem containsId_iff : t.containsId id = true ↔ id ∈ t.ids := by
  rw [← not_iff_not, ids, ← Node.find?_eq_none, find?_toNode, containsId]
  by_cases h : t.id = id <;> simp [h]

theorem group_error_iff (hd : t.ids.Nodup) : t.group id = .error e ↔ t.NoGroup id e := by
  rw [group]
  by_cases hmem : id ∈ t.ids
  · obtain ⟨n, hn, rfl⟩ := exists_has hmem
    rw [findGroup?_of_has hd hn]
    cases n with
    | group k children =>
      simp only [Node.toGroup?, reduceCtorEq, false_iff]
      rintro (⟨hc, hcid⟩ | habsent)
      · cases hc.unique hd hn hcid
      · exact habsent hmem
    | condition c =>
      simp only [Node.toGroup?, if_pos (containsId_iff.2 hmem), Except.error.injEq]
      refine ⟨fun he => he ▸ .condition hn rfl, ?_⟩
      rintro (_ | habsent)
      · rfl
      · exact absurd hmem habsent
  · have hnone : t.findGroup? id = none := by
      refine Option.eq_none_iff_forall_ne_some.2 fun g hg => hmem ?_
      obtain ⟨hhas, hid⟩ := (find?_iff_has hd).1 (findGroup?_eq_some.1 hg)
      exact hid ▸ hhas.mem_ids
    simp only [hnone, if_neg (mt containsId_iff.1 hmem), Except.error.injEq]
    refine ⟨fun he => he ▸ .absent hmem, ?_⟩
    rintro (⟨hc, rfl⟩ | _)
    · exact absurd hc.mem_ids hmem
    · rfl

theorem among?_of_mem {k : Header} {before ns : List Node} (h : ∃ n ∈ ns, n.id = id) :
    ∃ p, Place.among? k id before ns = some p := by
  induction ns generalizing before with
  | nil => simp at h
  | cons n ns ih =>
    by_cases hn : n.id = id
    · exact ⟨_, if_pos hn⟩
    · simp only [List.exists_mem_cons_iff, hn, false_or] at h
      rw [Place.among?, if_neg hn]
      exact ih h

theorem place_in_parent (hd : t.ids.Nodup) (h : t.parent? id = some g) :
    t.group g.id = .ok g ∧ ∃ p, g.place? id = some p := by
  obtain ⟨⟨c, ht⟩, hchild⟩ := Node.exists_within_of_parent? _ h
  rw [group_ok_iff]
  exact ⟨(find?_iff_has hd).2 ⟨⟨c, ht⟩, rfl⟩, among?_of_mem hchild⟩

theorem exists_place (hd : t.ids.Nodup) (hroot : t.id ≠ id) (h : id ∈ t.ids) :
    ∃ p, t.place id = .ok p := by
  have htail : id ∈ t.toNode.ids.tail := (List.mem_cons.1 h).resolve_left hroot.symm
  obtain ⟨g, hg⟩ :=
    Option.ne_none_iff_exists'.1 (mt (Node.parent?_eq_none t.toNode).1 (not_not.2 htail))
  obtain ⟨hgroup, p, hp⟩ := place_in_parent hd hg
  refine ⟨p, ?_⟩
  rw [place, if_neg hroot, parent?, hg]
  simp only [hgroup, bind, Except.bind, hp]

theorem place_error_iff (hd : t.ids.Nodup) : t.place id = .error e ↔ t.NoPlace id e := by
  by_cases hroot : t.id = id
  · rw [place, if_pos hroot, Except.error.injEq]
    refine ⟨fun he => he ▸ .root hroot, ?_⟩
    rintro (_ | habsent)
    · rfl
    · exact absurd (hroot ▸ t.toNode.id_mem_ids) habsent
  · by_cases hmem : id ∈ t.ids
    · obtain ⟨p, hp⟩ := exists_place hd hroot hmem
      simp only [hp, reduceCtorEq, false_iff]
      rintro (hid | habsent)
      · exact hroot hid
      · exact habsent hmem
    · have hparent : t.parent? id = none :=
        (Node.parent?_eq_none t.toNode).2 fun hin => hmem (List.mem_of_mem_tail hin)
      rw [place, if_neg hroot, hparent, Except.error.injEq]
      refine ⟨fun he => he ▸ .absent hmem, ?_⟩
      rintro (hid | _)
      · exact absurd hid hroot
      · rfl

theorem exists_replace? {new : Group} (h : t.group id = .ok g) :
    ∃ n, t.toNode.replace? id new = some n := by
  obtain ⟨hid, c, ht, hc⟩ := Node.exists_within_of_find? _ (group_ok_iff.1 h)
  obtain rfl : g.id = id := hid
  rw [ht]
  exact ⟨_, Node.replace?_within hc⟩

theorem editGroup_error_iff {f : Group → Group} :
    t.editGroup id f = .error e ↔ t.group id = .error e := by
  rw [editGroup_eq]
  cases t.group id <;> simp [Except.map]

theorem editPlace_error_iff {f : Place → List Node} :
    t.editPlace id f = .error e ↔ t.place id = .error e := by
  rw [editPlace_eq]
  cases t.place id <;> simp [Except.map]

theorem updateCondition_error_iff (hd : t.ids.Nodup) {patch : ConditionPatch} :
    t.updateCondition id patch = .error e ↔ t.NoCondition id e := by
  rw [updateCondition]
  cases hc : t.findCondition? id with
  | some c =>
    obtain ⟨hhas, hid⟩ := (findCondition?_iff_has hd).1 hc
    have hroot : t.id ≠ id := fun hroot => by cases t.has_root.unique hd hhas (hroot.trans hid.symm)
    obtain ⟨p, hp⟩ := exists_place hd hroot (hid ▸ hhas.mem_ids)
    rw [Option.isSome_some, if_pos rfl, editPlace_error_iff, hp]
    simp only [reduceCtorEq, false_iff]
    rintro (⟨hg, hgid⟩ | habsent)
    · cases hg.unique hd hhas (hgid.trans hid.symm)
    · exact habsent (hid ▸ hhas.mem_ids)
  | none =>
    rw [if_neg (by simp), Except.error.injEq]
    by_cases hmem : id ∈ t.ids
    · obtain ⟨n, hn, rfl⟩ := exists_has hmem
      rw [if_pos (containsId_iff.2 hmem)]
      cases n with
      | condition c => cases hc.symm.trans ((findCondition?_iff_has hd).2 ⟨hn, rfl⟩)
      | group k children =>
        refine ⟨fun he => he ▸ .group (g := ⟨k, children⟩) hn rfl, ?_⟩
        rintro (_ | habsent)
        · rfl
        · exact absurd hmem habsent
    · rw [if_neg (mt containsId_iff.1 hmem)]
      refine ⟨fun he => he ▸ .absent hmem, ?_⟩
      rintro (⟨hg, hid⟩ | _)
      · exact absurd (hid ▸ hg.mem_ids) hmem
      · rfl

theorem cloneNode_error_iff {after : Bool} {s : IdSource} :
    (t.cloneNode id after s).1 = .error e ↔ t.place id = .error e := by
  rw [cloneNode]
  cases t.place id <;> simp

theorem addCondition_error_iff (hd : t.ids.Nodup) {d : Option Condition} {ctx : EditContext}
    {s : IdSource} :
    (t.addCondition id d ctx s).1 = .error e ↔
      if d = none ∧ ctx.catalog.fields = [] then e = .emptyCatalog else t.NoGroup id e := by
  cases d with
  | some d =>
    rw [if_neg (by simp), ← group_error_iff hd]
    exact editGroup_error_iff
  | none =>
    simp only [addCondition, newCondition, Catalog.first?]
    cases ctx.catalog.fields with
    | nil => simp [eq_comm]
    | cons f fs =>
      rw [if_neg (by simp), ← group_error_iff hd]
      exact editGroup_error_iff

/-- There is no room for a group just if it is too high for the depth of the group around it. -/
theorem noRoom_iff (hd : t.ids.Nodup) {max : Option Nat} {child : Group} (hg : t.group id = .ok g) :
    NoRoom max t id child e ↔
      ∃ limit, max.filter (· < (t.depth? id).getD 0 + child.height) = some limit ∧
        .tooDeep limit = e := by
  obtain ⟨hid, c, ht, -⟩ := Node.exists_within_of_find? _ (group_ok_iff.1 hg)
  obtain rfl : g.id = id := hid
  have hdepth : t.depth? g.id = some c.length := depth?_of_within (n := g.toNode) hd ht
  have hdeep (limit : Nat) : (∃ k ∈ child.toNode.groupDepths (c.length + 1), limit < k) ↔
      limit < c.length + child.height := by
    have hpos : 0 < child.height := Nat.succ_pos _
    have hle : _ ↔ child.height = 0 ∨ c.length + 1 + child.height ≤ limit + 1 :=
      child.toNode.groupDepths_le_iff (c.length + 1) limit
    rw [← not_iff_not]
    simp only [not_exists, not_and, not_lt]
    rw [hle]
    omega
  simp only [hdepth, Option.getD_some, Option.filter_eq_some_iff, decide_eq_true_eq]
  constructor
  · rintro (@⟨g', _, limit, k, ⟨b, ht', rfl⟩, hid, hmax, hmem, hlt⟩)
    have hdepth' : t.depth? g'.id = some b.length := depth?_of_within (n := g'.toNode) hd ht'
    rw [hid, hdepth, Option.some.injEq] at hdepth'
    exact ⟨limit, ⟨hmax, (hdeep limit).1 ⟨k, hdepth' ▸ hmem, hlt⟩⟩, rfl⟩
  · rintro ⟨limit, ⟨hmax, hlt⟩, rfl⟩
    obtain ⟨k, hmem, hlt⟩ := (hdeep limit).2 hlt
    exact .deep ⟨c, ht, rfl⟩ rfl hmax hmem hlt

theorem NoRoom.group_ok (hd : t.ids.Nodup) {max : Option Nat} {child : Group}
    (h : NoRoom max t id child e) : ∃ g, t.group id = .ok g := by
  obtain ⟨⟨c, ht, -⟩, hid⟩ := h
  exact ⟨_, group_ok_iff.2 ((find?_iff_has hd).2 ⟨⟨c, ht⟩, hid⟩)⟩

theorem addGroup_error_iff (hd : t.ids.Nodup) {child : Option Group} {ctx : EditContext}
    {s : IdSource} :
    (t.addGroup id child ctx s).1 = .error e ↔
      t.NoGroup id e ∨ NoRoom ctx.maxDepth t id (child.getD (.empty "")) e := by
  rw [addGroup, ← group_error_iff hd]
  cases hg : t.group id with
  | error e' =>
    refine (or_iff_left fun hroom => ?_).symm
    obtain ⟨g, hg'⟩ := hroom.group_ok hd
    cases hg.symm.trans hg'
  | ok g =>
    simp only [reduceCtorEq, false_or]
    rw [noRoom_iff hd hg]
    -- new ids leave the height of what is added alone
    cases child with
    | some child =>
      have hheight (c : Claims) : (child.toNode.claimIds c).1.height = child.height :=
        Node.height_relabel _ _ _
      simp only [hheight, Option.getD_some]
      split
      · next max hmax => simp [hmax]
      · next hmax => simp [hmax, editGroup_error_iff, hg]
    | none =>
      have hheight (id : String) : (empty id).toNode.height = (empty "").height := rfl
      simp only [hheight, Option.getD_none]
      split
      · next max hmax => simp [hmax]
      · next hmax => simp [hmax, editGroup_error_iff, hg]

theorem group_ok_iff_isGroupAt? :
    (∃ g, t.group id = .ok g) ↔ t.toNode.isGroupAt? id = some true := by
  simp only [group_ok_iff, Node.isGroupAt?, Option.map_eq_some_iff]
  constructor
  · rintro ⟨g, hg⟩
    exact ⟨_, hg, rfl⟩
  · rintro ⟨n, hn, hgroup⟩
    cases n with
    | condition c => cases hgroup
    | group k children => exact ⟨⟨k, children⟩, hn⟩

theorem isGroupAt?_deleteNode (h : t.deleteNode id = .ok t') (hp : t.place id = .ok p)
    (htarget : target ∉ p.node.ids) : t'.toNode.isGroupAt? target = t.toNode.isGroupAt? target := by
  obtain ⟨q, hq, rfl⟩ := editPlace_ok h
  obtain rfl : p = q := Except.ok.inj (hp.symm.trans hq)
  obtain ⟨c, ht, ht'⟩ := place_within hp
  rw [ht, ht']
  refine Node.isGroupAt?_within_congr ?_ c
  simp only [Place.fill, toNode, Node.isGroupAt?, Node.find?, Node.findAmong?_append,
    Node.findAmong?, (Node.find?_eq_none p.node).2 htarget, Option.or_none]
  split <;> rfl

theorem move_ok (hd : t.ids.Nodup) {f : Group → Group} (hn : t.find? id = some n)
    (hroot : t.id ≠ id) (htarget : target ∉ n.ids) (hg : t.group target = .ok g) :
    ∃ detached t', t.deleteNode id = .ok detached ∧ detached.editGroup target f = .ok t' := by
  have hfind : t.toNode.find? id = some n := (find?_toNode t id).trans ((if_neg hroot).trans hn)
  obtain ⟨hhas, hid⟩ := (find?_iff_has hd).1 hfind
  obtain ⟨p, hp⟩ := exists_place hd hroot (hid ▸ hhas.mem_ids)
  obtain rfl : p.node = n := Option.some.inj ((find?_of_place hd hp).symm.trans hn)
  have hdel : t.deleteNode id = .ok (t.replace p.header.id (p.fill [])) := by
    rw [deleteNode, editPlace_eq, hp]
    rfl
  have hsame := isGroupAt?_deleteNode hdel hp htarget
  obtain ⟨g', hg'⟩ := group_ok_iff_isGroupAt?.2 (hsame.trans (group_ok_iff_isGroupAt?.1 ⟨g, hg⟩))
  exact ⟨_, _, hdel, by rw [editGroup_eq, hg']; rfl⟩

theorem noMove_iff (hd : t.ids.Nodup) (hroot : t.id ≠ id) (hn : t.Has n) (hid : n.id = id) :
    t.NoMove id target e ↔
      (target ∉ t.ids ∧ e = .groupNotFound target) ∨ (target ∈ n.ids ∧ e = .cycle) ∨
        (target ∉ n.ids ∧ e = .notAGroup target ∧ ∃ c, t.Has (.condition c) ∧ c.id = target) := by
  have hmem : id ∈ t.ids := hid ▸ hn.mem_ids
  constructor
  · rintro (hplace | ⟨-, -, habsent⟩ | ⟨-, hm, hmid, hin⟩ | ⟨-, hm, hmid, hout, hc, hcid⟩)
    · rcases hplace with h | h
      · exact absurd h hroot
      · exact absurd hmem h
    · exact .inl ⟨habsent, rfl⟩
    · exact .inr (.inl ⟨hn.unique hd hm (hid.trans hmid.symm) ▸ hin, rfl⟩)
    · exact .inr (.inr ⟨hn.unique hd hm (hid.trans hmid.symm) ▸ hout, rfl, _, hc, hcid⟩)
  · rintro (⟨habsent, rfl⟩ | ⟨hin, rfl⟩ | ⟨hout, rfl, c, hc, hcid⟩)
    · exact .absent hroot hmem habsent
    · exact .cycle hroot hn hid hin
    · exact .condition hroot hn hid hout hc hcid

/-- The path to a target leads through a node just if the target lies in it. -/
theorem contains_path_iff (hd : t.ids.Nodup) (h : t.Has n) {path : List String}
    (hp : t.path? target = some path) : path.contains n.id = true ↔ target ∈ n.ids := by
  obtain ⟨c, ht⟩ := h
  rw [List.contains_iff_mem]
  rw [ids, ht] at hd
  rw [path?, ht] at hp
  exact Node.mem_path?_iff hd hp

theorem moveNode_error_iff_of_find? (hd : t.ids.Nodup) {index : Nat} (hroot : t.id ≠ id)
    (hn : t.find? id = some n) :
    t.moveNode id target index = .error e ↔
      (target ∉ t.ids ∧ e = .groupNotFound target) ∨ (target ∈ n.ids ∧ e = .cycle) ∨
        (target ∉ n.ids ∧ e = .notAGroup target ∧ ∃ c, t.Has (.condition c) ∧ c.id = target) := by
  have hfind : t.toNode.find? id = some n := (find?_toNode t id).trans ((if_neg hroot).trans hn)
  obtain ⟨hhas, rfl⟩ := (find?_iff_has hd).1 hfind
  simp only [moveNode, if_neg hroot, hn]
  cases hp : t.path? target with
  | none =>
    have hout : target ∉ t.ids := (Node.path?_eq_none t.toNode).1 hp
    have houtside : target ∉ n.ids := fun hin => hout (hhas.ids_subset hin)
    have hnone : ¬ ∃ c, t.Has (.condition c) ∧ c.id = target := by
      rintro ⟨c, hc, rfl⟩
      exact hout hc.mem_ids
    simp only [hout, houtside, hnone, not_false_eq_true, true_and, false_and, and_false, or_false,
      Except.error.injEq, eq_comm (a := e)]
  | some path =>
    have hmem : target ∈ t.ids := by
      by_contra hout
      cases ((Node.path?_eq_none t.toNode).2 hout).symm.trans hp
    have hinside : path.contains n.id = true ↔ target ∈ n.ids := contains_path_iff hd hhas hp
    by_cases hin : target ∈ n.ids
    · simp only [hinside.2 hin, hmem, hin, if_true, not_true, false_and, true_and, false_or,
        or_false, Except.error.injEq, eq_comm]
    · simp only [mt hinside.1 hin, hmem, hin, Bool.false_eq_true, if_false, not_true,
        not_false_eq_true, false_and, true_and, false_or]
      obtain ⟨m, hm, rfl⟩ := exists_has hmem
      rw [findGroup?_of_has hd hm]
      cases m with
      | condition d =>
        have hthere : ∃ c, t.Has (.condition c) ∧ c.id = Node.id (.condition d) := ⟨d, hm, rfl⟩
        simp only [Node.toGroup?, Option.isNone_none, if_true, Except.error.injEq, hthere,
          and_true, eq_comm (a := e)]
      | group k children =>
        have hnone : ¬ ∃ c, t.Has (.condition c) ∧ c.id = Node.id (.group k children) := by
          rintro ⟨c, hc, hcid⟩
          cases hc.unique hd hm hcid
        obtain ⟨detached, t', hdel, hput⟩ := move_ok (f := insert index n) hd hn hroot hin
          (group_ok_iff.2 (findGroup?_eq_some.1 ((findGroup?_of_has hd hm).trans rfl)))
        simp only [Node.toGroup?, Option.isNone_some, Bool.false_eq_true, if_false, hdel, bind,
          Except.bind, hput, reduceCtorEq, hnone, and_false]

theorem moveNode_error_iff (hd : t.ids.Nodup) {index : Nat} :
    t.moveNode id target index = .error e ↔ t.NoMove id target e := by
  rw [moveNode]
  by_cases hroot : t.id = id
  · rw [if_pos hroot, Except.error.injEq]
    refine ⟨fun he => he ▸ .place (.root hroot), ?_⟩
    rintro ((_ | habsent) | ⟨hne, -, -⟩ | ⟨hne, -, -, -⟩ | ⟨hne, -, -, -, -, -⟩)
    · rfl
    · exact absurd (hroot ▸ t.toNode.id_mem_ids) habsent
    all_goals exact absurd hroot hne
  rw [if_neg hroot]
  have hfind : t.toNode.find? id = t.find? id := (find?_toNode t id).trans (if_neg hroot)
  cases hn : t.find? id with
  | none =>
    have hmem : id ∉ t.ids := (Node.find?_eq_none _).1 (hfind.trans hn)
    rw [Except.error.injEq]
    refine ⟨fun he => he ▸ .place (.absent hmem), ?_⟩
    rintro ((h | _) | ⟨-, hmem', -⟩ | ⟨-, hm, hmid, -⟩ | ⟨-, hm, hmid, -, -, -⟩)
    · exact absurd h hroot
    · rfl
    · exact absurd hmem' hmem
    · exact absurd (hmid ▸ hm.mem_ids) hmem
    · exact absurd (hmid ▸ hm.mem_ids) hmem
  | some n =>
    obtain ⟨hhas, hid⟩ := (find?_iff_has hd).1 (hfind.trans hn)
    rw [noMove_iff hd hroot hhas hid, ← moveNode_error_iff_of_find? hd hroot hn, moveNode,
      if_neg hroot, hn]

end Group

/-- Why a mutation is rejected. -/
def Mutation.Rejected (ctx : EditContext) (t : Tree) (e : EditError) : Mutation → Prop
  | addCondition group condition =>
    if condition = none ∧ ctx.catalog.fields = [] then e = .emptyCatalog else t.NoGroup group e
  | addGroup group child =>
    t.NoGroup group e ∨ Group.NoRoom ctx.maxDepth t group (child.getD (.empty "")) e
  | updateCondition node _ => t.NoCondition node e
  | updateGroup group _ | setCombinator group _ | toggleNegation group => t.NoGroup group e
  | deleteNode node | cloneNode node _ | setEdge node _ => t.NoPlace node e
  | moveNode node group _ => t.NoMove node group e

theorem Mutation.apply_error_iff {ctx : EditContext} {s : IdSource} {t : Tree} {e : EditError}
    (hd : t.ids.Nodup) (m : Mutation) : (m.apply ctx s t).1 = .error e ↔ m.Rejected ctx t e := by
  cases m with
  | addCondition group condition => exact Group.addCondition_error_iff hd
  | addGroup group child => exact Group.addGroup_error_iff hd
  | updateCondition node patch => exact Group.updateCondition_error_iff hd
  | updateGroup group _ | setCombinator group _ | toggleNegation group =>
    exact Group.editGroup_error_iff.trans (Group.group_error_iff hd)
  | deleteNode node | setEdge node _ =>
    exact Group.editPlace_error_iff.trans (Group.place_error_iff hd)
  | cloneNode node after => exact Group.cloneNode_error_iff.trans (Group.place_error_iff hd)
  | moveNode node group index => exact Group.moveNode_error_iff hd

/-- In a tree with distinct ids, an edit is rejected for just the reasons there are, and carried out
if there is none. A group that is found can be replaced, and so can the group around a node, in
which the node is found in turn: once an edit has passed its checks, nothing is missing any more. -/
theorem edits_rejected_for_reasons (ctx : EditContext) (s : IdSource) (t : Tree) (m : Mutation)
    (hd : t.ids.Nodup) :
    (∀ e, (m.apply ctx s t).1 = .error e ↔ m.Rejected ctx t e) ∧
      ((∃ t', (m.apply ctx s t).1 = .ok t') ↔ ∀ e, ¬ m.Rejected ctx t e) ∧
      (∀ id g new, t.group id = .ok g → ∃ n, t.toNode.replace? id new = some n) ∧
      ∀ id g, t.parent? id = some g → t.group g.id = .ok g ∧ ∃ p, g.place? id = some p := by
  have herror (e : EditError) : (m.apply ctx s t).1 = .error e ↔ m.Rejected ctx t e :=
    m.apply_error_iff hd
  refine ⟨herror, ?_, fun id g new => Group.exists_replace?, fun id g => Group.place_in_parent hd⟩
  simp only [← herror]
  cases (m.apply ctx s t).1 with
  | error e => simp
  | ok t' => simp

/-- A group within a group within the root. The outer one cannot be moved into the inner one, while
the inner one can be moved out. -/
theorem edits_rejected_for_reasons_moves :
    let inner : Node := .group ⟨"b", .and, false, none⟩ []
    let outer : Node := .group ⟨"a", .and, false, none⟩ [inner]
    let t : Tree := ⟨⟨"r", .and, false, none⟩, [outer]⟩
    let ctx : EditContext := ⟨⟨[]⟩, ⟨2024, 1, 1, by decide, by decide, by decide⟩, none⟩
    let s : IdSource := .ofSeed "s"
    t.ids.Nodup ∧ ((Mutation.moveNode "a" "b" 0).apply ctx s t).1 = .error .cycle ∧
      ∃ t', ((Mutation.moveNode "b" "r" 0).apply ctx s t).1 = .ok t' := by
  intro inner outer t ctx s
  have hd : t.ids.Nodup := by decide
  refine ⟨hd, ?_, ?_⟩
  · exact ((edits_rejected_for_reasons ctx s t (.moveNode "a" "b" 0) hd).1 .cycle).2
      (.cycle (by decide) ⟨[⟨t.header, [], []⟩], rfl⟩ rfl (by decide))
  · refine (edits_rejected_for_reasons ctx s t (.moveNode "b" "r" 0) hd).2.1.2 fun e he => ?_
    have hinner : t.Has inner := ⟨[⟨t.header, [], []⟩, ⟨⟨"a", .and, false, none⟩, [], []⟩], rfl⟩
    rcases (Group.noMove_iff hd (by decide) hinner rfl).1 he with
      ⟨hroot, -⟩ | ⟨hin, -⟩ | ⟨-, -, c, hc, hid⟩
    · exact hroot List.mem_cons_self
    · exact absurd hin (by decide)
    · cases hc.unique hd t.has_root hid

end Criteria
