import Mathlib
import Grader.Proofs.Source.Scope
import Grader.Proofs.Source.Descent

/-!
What lies around a node. Climbing from a node classifies the nodes above it anew, without the
annotations around them, which matter for type references only. So the first node of some other
kinds that is met is the nearest one that the unit shows, and climbing on from there visits all of
them, from the inside out.
-/

namespace Grader

open Source

namespace Source

variable {t : Tree} {kinds : List Kind} {n m : Node} {p : List Nat} {v : Tree}

/-- Whether the node at a path is shown with one of the kinds. -/
def Tree.HasKindAt (t : Tree) (kinds : List Kind) (path : List Nat) : Prop :=
  ∃ n ∈ nodes t, n.path = path ∧ kinds.any (·.covers n.kind) = true

/-- Only the kind of type references covers type references. -/
theorem Kind.any_covers_typeRef (hkinds : Kind.typeRef ∉ kinds) :
    kinds.any (·.covers .typeRef) = false := by
  refine List.any_eq_false.mpr fun k hk hcovers => hkinds ?_
  cases k <;> first | exact hk | cases hcovers

/-- A node is classified anew as it is shown, unless it is a type reference. -/
theorem node?_of_at? (h : t.at? p = some v) : (⟨v, t.above p, p, none⟩ : Occurrence).node? = some n ↔
    n ∈ nodes t ∧ n.path = p ∧ n.kind ≠ .typeRef := by
  obtain ⟨o, ho, rfl⟩ := exists_occurrence h
  obtain ⟨hat, habove⟩ := faithful_of_mem_walk_root ho
  obtain rfl : o.tree = v := Option.some.inj (hat.symm.trans h)
  have hplain : (⟨o.tree, t.above o.path, o.path, none⟩ : Occurrence) = o.plain := by
    rw [← habove]
    rfl
  rw [hplain, node?_plain, Option.filter_eq_some_iff, decide_eq_true_eq]
  constructor
  · rintro ⟨hnode, hkind⟩
    exact ⟨List.mem_filterMap.mpr ⟨o, ho, hnode⟩, path_of_node? hnode, hkind⟩
  · rintro ⟨hn, hpath, hkind⟩
    refine ⟨?_, hkind⟩
    obtain ⟨o', ho', hnode⟩ := List.mem_filterMap.mp hn
    rwa [← eq_of_path_eq ho' ho ((path_of_node? hnode).symm.trans hpath)]

theorem enclosingIn_cons (kinds : List Kind) (parent : Tree) (ancestors : List Tree) (i : Nat)
    (p : List Nat) : Node.enclosingIn kinds (parent :: ancestors) (i :: p) =
      ((⟨parent, ancestors, p, none⟩ : Occurrence).node?.filter fun m =>
        kinds.any (·.covers m.kind)).or (Node.enclosingIn kinds ancestors p) := by
  rw [Node.enclosingIn, Occurrence.node?]
  cases classify parent ancestors none with
  | none => rfl
  | some k =>
    obtain ⟨kind, role⟩ := k
    cases hcovers : kinds.any (·.covers kind) <;> simp [hcovers, Option.filter]

/-- Climbing from a path, the first node that is found is the nearest one of these kinds. -/
theorem enclosingIn_above (hkinds : Kind.typeRef ∉ kinds) (h : t.at? p = some v) :
    Node.enclosingIn kinds (t.above p) p = some n ↔
      n ∈ nodes t ∧ NearestAbove (t.HasKindAt kinds) p n.path := by
  induction p generalizing v with
  | nil =>
    refine iff_of_false (by simp [Tree.above, Node.enclosingIn]) ?_
    rintro ⟨-, hnearest⟩
    exact not_nearestAbove_nil hnearest
  | cons i p ih =>
    obtain ⟨parent, hparent, -⟩ := Tree.at?_cons_eq_some.mp h
    have hfound {m : Node} : ((⟨parent, t.above p, p, none⟩ : Occurrence).node?.filter fun m =>
        kinds.any (·.covers m.kind)) = some m ↔
          m ∈ nodes t ∧ m.path = p ∧ kinds.any (·.covers m.kind) = true := by
      rw [Option.filter_eq_some_iff, node?_of_at? hparent]
      constructor
      · rintro ⟨⟨hm, hpath, -⟩, hcovers⟩
        exact ⟨hm, hpath, hcovers⟩
      · rintro ⟨hm, hpath, hcovers⟩
        refine ⟨⟨hm, hpath, fun hkind => ?_⟩, hcovers⟩
        rw [hkind, Kind.any_covers_typeRef hkinds] at hcovers
        cases hcovers
    rw [Tree.above_cons hparent, enclosingIn_cons]
    cases hnode : (⟨parent, t.above p, p, none⟩ : Occurrence).node?.filter fun m =>
      kinds.any (·.covers m.kind) with
    | some m =>
      obtain ⟨hm, hpath, hcovers⟩ := hfound.mp hnode
      rw [Option.some_or, Option.some.injEq, nearestAbove_cons_of_pos ⟨m, hm, hpath, hcovers⟩]
      constructor
      · rintro rfl
        exact ⟨hm, hpath⟩
      · rintro ⟨hn, hpath'⟩
        exact eq_of_mem_nodes hm hn (hpath.trans hpath'.symm)
    | none =>
      have hno : ¬ t.HasKindAt kinds p := by
        rintro ⟨m, hm⟩
        have hsome := hfound.mpr hm
        simp [hnode] at hsome
      rw [Option.none_or, nearestAbove_cons_of_neg hno]
      exact ih hparent

section Enclosing

variable {d : Node}

theorem enclosing_eq_some_iff (hkinds : Kind.typeRef ∉ kinds) (hd : d ∈ nodes t) :
    d.enclosing kinds = some n ↔
      n ∈ nodes t ∧ NearestAbove (t.HasKindAt kinds) d.path n.path := by
  obtain ⟨hat, habove⟩ := faithful_of_mem_nodes hd
  rw [Node.enclosing, habove]
  exact enclosingIn_above hkinds hat

theorem enclosing_eq_none_iff (hkinds : Kind.typeRef ∉ kinds) (hd : d ∈ nodes t) :
    d.enclosing kinds = none ↔ ∀ q, IsAbove q d.path → ¬ t.HasKindAt kinds q := by
  constructor
  · intro hnone q hq hkind
    obtain ⟨s, hs⟩ := exists_nearestAbove hq hkind
    obtain ⟨n, hn, rfl, -⟩ := id hs.holds
    have hsome := (enclosing_eq_some_iff hkinds hd).mpr ⟨hn, hs⟩
    simp [hnone] at hsome
  · intro hno
    refine Option.eq_none_iff_forall_ne_some.mpr fun n hn => ?_
    have hnearest := ((enclosing_eq_some_iff hkinds hd).mp hn).2
    exact hno n.path hnearest.above hnearest.holds

/-- The node that is found, said of the nodes that are shown. -/
theorem nearestAbove_hasKindAt_iff (hn : n ∈ nodes t) :
    NearestAbove (t.HasKindAt kinds) p n.path ↔
      kinds.any (·.covers n.kind) = true ∧ IsAbove n.path p ∧
        ∀ m ∈ nodes t, kinds.any (·.covers m.kind) = true → IsAbove m.path p →
          m.path <:+ n.path := by
  constructor
  · rintro ⟨habove, ⟨n', hn', hpath, hcovers⟩, hdeepest⟩
    obtain rfl := eq_of_mem_nodes hn' hn hpath
    exact ⟨hcovers, habove, fun m hm hk hq => hdeepest m.path hq ⟨m, hm, rfl, hk⟩⟩
  · rintro ⟨hcovers, habove, hdeepest⟩
    refine ⟨habove, ⟨n, hn, rfl, hcovers⟩, ?_⟩
    rintro q hq ⟨m, hm, rfl, hk⟩
    exact hdeepest m hm hk hq

/-- The nodes above a node that have one of the kinds, from the inside out. -/
def enclosures (t : Tree) (kinds : List Kind) (d : Node) : List Node :=
  ((nodes t).filter fun n => IsAbove n.path d.path ∧ kinds.any (·.covers n.kind) = true).reverse

theorem mem_enclosures : n ∈ enclosures t kinds d ↔
    n ∈ nodes t ∧ IsAbove n.path d.path ∧ kinds.any (·.covers n.kind) = true := by
  simp [enclosures]

/-- Document order has the outer ones first. -/
theorem pairwise_enclosures (t : Tree) (kinds : List Kind) (d : Node) :
    (enclosures t kinds d).Pairwise fun a b => IsAbove b.path a.path := by
  rw [enclosures, List.pairwise_reverse]
  refine ((pairwise_nodes t).filter _).imp_of_mem fun ha hb hahead => ?_
  have ha' := (of_decide_eq_true (List.mem_filter.mp ha).2).1
  have hb' := (of_decide_eq_true (List.mem_filter.mp hb).2).1
  rcases hahead with habove | hprecedes
  · exact habove
  · rcases List.suffix_or_suffix_of_suffix ha'.1 hb'.1 with hsuf | hsuf
    · exact absurd hsuf hprecedes.not_suffix.1
    · exact absurd hsuf hprecedes.not_suffix.2

/-- After the nearest node come those around it. -/
theorem enclosures_of_enclosing (hkinds : Kind.typeRef ∉ kinds) (hd : d ∈ nodes t)
    (h : d.enclosing kinds = some n) :
    enclosures t kinds d = n :: enclosures t kinds n := by
  obtain ⟨hn, hnearest⟩ := (enclosing_eq_some_iff hkinds hd).mp h
  obtain ⟨hcovers, habove, hdeepest⟩ := (nearestAbove_hasKindAt_iff hn).mp hnearest
  let inward (a b : Node) : Prop := IsAbove b.path a.path
  have : Std.Irrefl inward := ⟨fun a ha => ha.2 rfl⟩
  have : Std.Antisymm inward := ⟨fun a b hab hba => absurd hba hab.asymm⟩
  have hcons : (n :: enclosures t kinds n).Pairwise inward :=
    List.pairwise_cons.mpr
      ⟨fun m hm => (mem_enclosures.mp hm).2.1, pairwise_enclosures t kinds n⟩
  refine List.Pairwise.eq_of_mem_iff (pairwise_enclosures t kinds d) hcons fun m => ?_
  rw [List.mem_cons, mem_enclosures, mem_enclosures]
  constructor
  · rintro ⟨hm, hmd, hk⟩
    have hsuf := hdeepest m hm hk hmd
    by_cases hpath : m.path = n.path
    · exact .inl (eq_of_mem_nodes hm hn hpath)
    · exact .inr ⟨hm, ⟨hsuf, hpath⟩, hk⟩
  · rintro (rfl | ⟨hm, hmn, hk⟩)
    · exact ⟨hn, habove, hcovers⟩
    · exact ⟨hm, hmn.trans habove, hk⟩

theorem enclosures_eq_nil (hkinds : Kind.typeRef ∉ kinds) (hd : d ∈ nodes t)
    (h : d.enclosing kinds = none) : enclosures t kinds d = [] := by
  refine List.eq_nil_iff_forall_not_mem.mpr fun m hm => ?_
  obtain ⟨hm, hmd, hk⟩ := mem_enclosures.mp hm
  exact (enclosing_eq_none_iff hkinds hd).mp h m.path hmd ⟨m, hm, rfl, hk⟩

/-- Climbing again and again visits the nodes around a node in their order, and then ends. -/
theorem iterate_enclosing (hkinds : Kind.typeRef ∉ kinds) (hd : d ∈ nodes t) (i : Nat) :
    (fun o : Option Node => o.bind (·.enclosing kinds))^[i + 1] (some d) =
      (enclosures t kinds d)[i]? := by
  induction i generalizing d with
  | zero =>
    change d.enclosing kinds = _
    cases h : d.enclosing kinds with
    | none => rw [enclosures_eq_nil hkinds hd h]; rfl
    | some n => rw [enclosures_of_enclosing hkinds hd h]; rfl
  | succ i ih =>
    rw [Function.iterate_succ_apply, Option.bind_some]
    cases h : d.enclosing kinds with
    | none =>
      rw [enclosures_eq_nil hkinds hd h]
      exact Function.iterate_fixed rfl (i + 1)
    | some n =>
      rw [enclosures_of_enclosing hkinds hd h, ih ((enclosing_eq_some_iff hkinds hd).mp h).1]
      rfl

end Enclosing

end Source

namespace SourceUnit

/-- What a node of a unit finds above itself, looking for some kinds. -/
structure FindsAbove (u : SourceUnit) (t : Tree) (kinds : List Kind) (d : Node) : Prop where
  /-- The node that is found is the nearest one of these kinds above, as the unit shows it, -/
  nearest : ∀ n, d.enclosing kinds = some n ↔
    n ∈ u.nodes ∧ kinds.any (·.covers n.kind) = true ∧ IsAbove n.path d.path ∧
      ∀ m ∈ u.nodes, kinds.any (·.covers m.kind) = true → IsAbove m.path d.path →
        m.path <:+ n.path
  /-- and none is found exactly if there is none. -/
  absent : d.enclosing kinds = none ↔
    ∀ n ∈ u.nodes, kinds.any (·.covers n.kind) = true → ¬ IsAbove n.path d.path
  /-- What is found sees the node below itself, unless that is a type reference. -/
  seen : ∀ n, d.enclosing kinds = some n → d.kind ≠ .typeRef → d ∈ n.children none
  /-- Climbing on and on visits all nodes of these kinds above and ends, -/
  climbs : ∀ i, (fun o : Option Node => o.bind (·.enclosing kinds))^[i + 1] (some d) =
    (enclosures t kinds d)[i]?
  /-- from the inside out. -/
  inside_out : (enclosures t kinds d).Pairwise fun a b => IsAbove b.path a.path

theorem enclosing_is_nearest (u : SourceUnit) (t : Tree) (h : u.tree? = some t)
    (kinds : List Kind) (hkinds : Kind.typeRef ∉ kinds) (d : Node) (hd : d ∈ u.nodes) :
    u.FindsAbove t kinds d := by
  have hnodes := nodes_eq h
  rw [hnodes] at hd
  have hsome {n : Node} := enclosing_eq_some_iff (n := n) hkinds hd
  exact {
    nearest := fun n => by
      rw [hnodes, hsome]
      exact and_congr_right nearestAbove_hasKindAt_iff
    absent := by
      rw [hnodes, enclosing_eq_none_iff hkinds hd]
      constructor
      · intro hno n hn hk habove
        exact hno n.path habove ⟨n, hn, rfl, hk⟩
      · rintro hno q hq ⟨n, hn, rfl, hk⟩
        exact hno n hn hk hq
    seen := fun n hn hkind => by
      obtain ⟨hn, hnearest⟩ := hsome.mp hn
      have hmem : d ∈ (n.children none).filter (·.kind ≠ .typeRef) := by
        rw [filter_children_eq hn, List.mem_filter]
        exact ⟨hd, decide_eq_true ⟨hnearest.above, rfl, hkind⟩⟩
      exact (List.mem_filter.mp hmem).1
    climbs := iterate_enclosing hkinds hd
    inside_out := pairwise_enclosures t kinds d }

/-- A call in a lambda expression in a constructor:

    class C:
        def __init__(self):
            self.f = lambda: g()
-/
def constructorTree : Tree :=
  .node .root .module none [
    .node .body (.classDef "C") (some ⟨1, 0⟩) [
      .node .body (.functionDef "__init__") (some ⟨2, 4⟩) [
        .node .args .arguments none [.node .args (.arg "self") (some ⟨2, 17⟩) []],
        .node .body .assign (some ⟨3, 8⟩) [
          .node .targets (.member "f") (some ⟨3, 8⟩) [
            .node .value (.name "self") (some ⟨3, 8⟩) []],
          .node .value .lambda (some ⟨3, 17⟩) [
            .node .args .arguments none [],
            .node .body .call (some ⟨3, 25⟩) [
              .node .func (.name "g") (some ⟨3, 25⟩) []]]]]]]

def constructorUnit : SourceUnit := ⟨"c.py", .parsed constructorTree⟩

/-- Looking for callables and classes, the call finds the constructor, which sees it, and then the
class. -/
theorem enclosing_is_nearest_call :
    constructorUnit.tree? = some constructorTree ∧ Kind.typeRef ∉ [Kind.callable, .classDef] ∧
      ∃ d ∈ constructorUnit.nodes, d.kind = .call ∧
        (∃ n ∈ constructorUnit.nodes, n.kind = .constructor ∧
          d.enclosing [.callable, .classDef] = some n ∧ d ∈ n.children none) ∧
        (enclosures constructorTree [.callable, .classDef] d).map (·.path) = [[0, 0], [0]] ∧
        ∀ i, (fun o : Option Node => o.bind (·.enclosing [.callable, .classDef]))^[i + 1] (some d) =
          (enclosures constructorTree [.callable, .classDef] d)[i]? := by
  let d := constructorUnit.nodes.get ⟨4, by decide⟩
  have hd : d ∈ constructorUnit.nodes := List.get_mem _ _
  have hkinds : Kind.typeRef ∉ [Kind.callable, .classDef] := by decide
  have hfinds := enclosing_is_nearest constructorUnit constructorTree rfl _ hkinds d hd
  refine ⟨rfl, hkinds, d, hd, rfl, ?_, by decide, hfinds.climbs⟩
  let n := constructorUnit.nodes.get ⟨1, by decide⟩
  have hn : d.enclosing [.callable, .classDef] = some n := rfl
  exact ⟨n, List.get_mem _ _, rfl, hn, hfinds.seen n hn (by decide)⟩

end SourceUnit

end Grader
