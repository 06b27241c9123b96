import Mathlib
import Grader.Proofs.Source.Scope
import Grader.Proofs.Source.Units

/-!
Nodes that are selected by kinds. Classes, imports, calls, lambdas and loops have their kinds by
their labels alone, and an assignment is a field by its scope, so that a selection shows what the
tree has of such a kind, each node once and in document order.
-/

namespace Grader

open Source

namespace Source

/-- What the items of a list with a property are mapped to. -/
theorem filterMap_ite {α β : Type} (p : α → Bool) (f : α → β) (l : List α) :
    (l.filterMap fun a => if p a then some (f a) else none) = (l.filter p).map f := by
  rw [← List.filterMap_eq_map, List.filterMap_filter]
  rfl

/-- Kinds that a node has by its label alone. -/
def Kind.isIntrinsic : Kind → Bool
  | classDef | importing | call | lambda | loop => true
  | _ => false

/-- The kind that a node has by its label, whatever is around it. -/
def Label.intrinsicKind : Label → Option Kind
  | classDef _ => some .classDef
  | importStmt | importFrom _ _ => some .importing
  | call => some .call
  | lambda => some .lambda
  | label => if label.loopName.isSome then some .loop else none

/-- Plain and annotated assignments. -/
def Label.isAssignment : Label → Bool
  | assign | annAssign => true
  | _ => false

/-- The scopes of which the variables are fields: modules and classes. -/
def Label.holdsFields : Label → Bool
  | module | classDef _ => true
  | _ => false

section Classified

variable {v : Tree} {ancestors : List Tree} {role role' : Option Role} {kind : Kind}

theorem classify_of_intrinsicKind (h : v.label.intrinsicKind = some kind)
    (ancestors : List Tree) (role : Option Role) :
    classify v ancestors role = some (kind, none) := by
  obtain ⟨f, l, s, cs⟩ := v
  cases l <;> simp_all [Tree.label, Label.intrinsicKind, Label.loopName, classify]

theorem Label.isIntrinsic_of_intrinsicKind {l : Label} (h : l.intrinsicKind = some kind) :
    kind.isIntrinsic = true := by
  cases l <;> simp_all [intrinsicKind, loopName] <;> · subst h; rfl

theorem Label.intrinsicKind_of_loopName {l : Label} (h : l.loopName.isSome = true) :
    l.intrinsicKind = some .loop := by
  cases l <;> simp_all [loopName, intrinsicKind]

/-- The kinds that a node can have: the one of its label, or one that depends on what is around. -/
theorem kinds_of_classify (h : classify v ancestors role = some (kind, role')) :
    v.label.intrinsicKind = some kind ∨
      v.label.isFunction = true ∧ kind ∈ [Kind.constructor, .method] ∨
      v.label.isAssignment = true ∧ kind ∈ [Kind.field, .localVariable] ∨ kind = .typeRef := by
  unfold classify at h
  split at h
  case h_2 hl | h_3 hl =>
    refine .inr (.inl ⟨by rw [hl]; rfl, ?_⟩)
    split at h
    · split at h <;> · cases h; simp
    · cases h; simp
  case h_4 hl | h_5 hl =>
    refine .inr (.inr (.inl ⟨by rw [hl]; rfl, ?_⟩))
    split at h
    · split at h <;> cases h <;> simp
    · cases h
  case h_10 | h_11 =>
    refine .inr (.inr (.inr ?_))
    split at h
    · cases h
    · split at h
      · split at h <;> cases h
        rfl
      · cases h; rfl
  case h_12 =>
    split at h
    case isTrue hloop =>
      cases h
      exact .inl (Label.intrinsicKind_of_loopName hloop)
    case isFalse => cases h
  all_goals
    rename_i hl
    cases h
    exact .inl (by rw [hl]; rfl)

theorem classify_eq_some_iff (hkind : kind.isIntrinsic = true) :
    classify v ancestors role = some (kind, role') ↔
      v.label.intrinsicKind = some kind ∧ role' = none := by
  constructor
  · intro h
    have hlabel : v.label.intrinsicKind = some kind := by
      rcases kinds_of_classify h with hlabel | ⟨-, hmem⟩ | ⟨-, hmem⟩ | rfl
      · exact hlabel
      · rcases List.mem_pair.mp hmem with rfl | rfl <;> cases hkind
      · rcases List.mem_pair.mp hmem with rfl | rfl <;> cases hkind
      · cases hkind
    rw [classify_of_intrinsicKind hlabel, Option.some.injEq, Prod.mk.injEq] at h
    exact ⟨hlabel, h.2.symm⟩
  · rintro ⟨hlabel, rfl⟩
    exact classify_of_intrinsicKind hlabel ancestors role

/-- An assignment is a field in the scope of a module or of a class. -/
theorem classify_assignment_eq_field_iff (h : v.label.isAssignment = true) :
    classify v ancestors role = some (.field, role') ↔
      (scopeIn ancestors).any (·.label.holdsFields) = true ∧ role' = none := by
  obtain ⟨f, l, s, cs⟩ := v
  cases hscope : scopeIn ancestors with
  | none => cases l <;> simp_all [classify, Tree.label, Label.isAssignment]
  | some scope =>
    obtain ⟨f', l', s', cs'⟩ := scope
    cases l <;> simp [Tree.label, Label.isAssignment] at h <;> cases l' <;>
      simp_all [classify, Tree.label, Label.holdsFields, eq_comm]

theorem classify_eq_field_iff : classify v ancestors role = some (.field, role') ↔
    v.label.isAssignment = true ∧ (scopeIn ancestors).any (·.label.holdsFields) = true ∧
      role' = none := by
  constructor
  · intro h
    have hlabel : v.label.isAssignment = true := by
      rcases kinds_of_classify h with hlabel | ⟨-, hmem⟩ | ⟨hlabel, -⟩ | hkind
      · cases Label.isIntrinsic_of_intrinsicKind hlabel
      · simp at hmem
      · exact hlabel
      · cases hkind
    exact ⟨hlabel, (classify_assignment_eq_field_iff hlabel).mp h⟩
  · rintro ⟨hlabel, h⟩
    exact (classify_assignment_eq_field_iff hlabel).mpr h

end Classified

/-- The nodes of a kind are those with a property of their places in the tree. -/
structure Tree.Tells (t : Tree) (kind : Kind) (K : List Nat → Tree → Prop) : Prop where
  ne_callable : kind ≠ .callable
  classify_iff : ∀ path v role role', classify v (t.above path) role = some (kind, role') ↔
    K path v ∧ role' = none

section Tells

variable {t v : Tree} {path : List Nat} {kind : Kind} {K : List Nat → Tree → Prop}

theorem tells_intrinsic (t : Tree) (hkind : kind.isIntrinsic = true) :
    t.Tells kind fun _ v => v.label.intrinsicKind = some kind where
  ne_callable := by
    rintro rfl
    cases hkind
  classify_iff _ _ _ _ := classify_eq_some_iff hkind

theorem tells_field (t : Tree) : t.Tells .field fun path v =>
    v.label.isAssignment = true ∧ (scopeIn (t.above path)).any (·.label.holdsFields) = true where
  ne_callable := by decide
  classify_iff _ _ _ _ := classify_eq_field_iff.trans and_assoc.symm

theorem exists_mem_nodes_iff (hK : t.Tells kind K) :
    (∃ n ∈ nodes t, n.path = path ∧ n.tree = v ∧ n.kind = kind) ↔
      t.at? path = some v ∧ K path v := by
  constructor
  · rintro ⟨n, hn, rfl, rfl, rfl⟩
    obtain ⟨o, ho, hnode⟩ := List.mem_filterMap.mp hn
    obtain ⟨kind, role, hclass, rfl⟩ := Occurrence.node?_eq_some.mp hnode
    obtain ⟨hat, habove⟩ := faithful_of_mem_walk_root ho
    rw [habove] at hclass
    exact ⟨hat, ((hK.classify_iff _ _ _ _).mp hclass).1⟩
  · rintro ⟨hv, hkind⟩
    obtain ⟨o, ho, rfl⟩ := exists_occurrence hv
    obtain ⟨hat, habove⟩ := faithful_of_mem_walk_root ho
    obtain rfl := Option.some.inj (hat.symm.trans hv)
    have hclass : classify o.tree o.ancestors o.role = some (kind, none) := by
      rw [habove]
      exact (hK.classify_iff _ _ _ _).mpr ⟨hkind, rfl⟩
    exact ⟨_, mem_nodes_of_classify ho hclass, rfl, rfl, rfl⟩

end Tells

end Source

namespace SourceUnit

/-- These are the nodes of a tree that have a property, each of them once and in document order. -/
structure Collects (u : SourceUnit) (t : Tree) (P : List Nat → Tree → Prop) (ns : List Node) :
    Prop where
  /-- They are where the tree has a node with the property, -/
  exact : ∀ path v, (∃ n ∈ ns, n.path = path ∧ n.tree = v) ↔ t.at? path = some v ∧ P path v
  /-- none of them comes twice, -/
  once : (ns.map (·.path)).Nodup
  /-- and all come in document order. -/
  in_order : ns.Sublist u.nodes

variable {u : SourceUnit} {t : Tree} {kind : Kind} {K P : List Nat → Tree → Prop}

theorem mem_select_iff (h : u.tree? = some t) (hkind : kind ≠ .callable) {n : Node} :
    n ∈ u.select kind ↔ n ∈ Source.nodes t ∧ n.kind = kind := by
  rw [select_eq_filter h, nodes_eq h, List.mem_filter]
  refine and_congr_right fun _ => ?_
  cases kind <;> simp_all [Kind.covers]

theorem exists_mem_select_iff (h : u.tree? = some t) (hK : t.Tells kind K) {path : List Nat}
    {v : Tree} :
    (∃ n ∈ u.select kind, n.path = path ∧ n.tree = v) ↔ t.at? path = some v ∧ K path v := by
  rw [← exists_mem_nodes_iff hK]
  simp only [mem_select_iff h hK.ne_callable]
  exact ⟨fun ⟨n, ⟨hn, hk⟩, hp, hv⟩ => ⟨n, hn, hp, hv, hk⟩,
    fun ⟨n, hn, hp, hv, hk⟩ => ⟨n, ⟨hn, hk⟩, hp, hv⟩⟩

/-- A selected node is of the kind, in the tree as well as by itself. -/
theorem kind_of_mem_select (h : u.tree? = some t) (hK : t.Tells kind K) {n : Node}
    (hn : n ∈ u.select kind) :
    n.kind = kind ∧ t.at? n.path = some n.tree ∧ K n.path n.tree :=
  ⟨((mem_select_iff h hK.ne_callable).mp hn).2,
    (exists_mem_select_iff h hK).mp ⟨n, hn, rfl, rfl⟩⟩

/-- What is filtered out of a selection, by a property that only nodes of the kind have. -/
theorem collects_filter_select (h : u.tree? = some t) (hK : t.Tells kind K) {p : Node → Bool}
    (hP : ∀ path v, P path v → K path v)
    (hp : ∀ n ∈ u.select kind, p n = true ↔ P n.path n.tree) :
    u.Collects t P ((u.select kind).filter p) where
  exact path v := by
    constructor
    · rintro ⟨n, hn, rfl, rfl⟩
      obtain ⟨hn, hpn⟩ := List.mem_filter.mp hn
      exact ⟨(kind_of_mem_select h hK hn).2.1, (hp n hn).mp hpn⟩
    · rintro ⟨hat, hv⟩
      obtain ⟨n, hn, rfl, rfl⟩ := (exists_mem_select_iff h hK).mpr ⟨hat, hP path v hv⟩
      exact ⟨n, List.mem_filter.mpr ⟨hn, (hp n hn).mpr hv⟩, rfl, rfl⟩
  once := (nodup_paths_select h kind).sublist (List.filter_sublist.map _)
  in_order := List.filter_sublist.trans (select_sublist_nodes h kind)

end SourceUnit

end Grader
