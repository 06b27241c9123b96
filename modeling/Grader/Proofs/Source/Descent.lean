import Mathlib
import Grader.Proofs.Source.Annotation

/-!
What lies below a node. A traversal that starts at a node meets what that of the whole tree meets
below the node, in the same order, and differs from it in roles at most. So a node sees everything
below it, with one exception: what stands in an annotation without being a type reference, such as a
call, starts as if there were no annotation around it, and does not see the type references below
it.
-/

namespace Grader

open Source

namespace Source

/-! ### Traversals that differ in their role -/

theorem insertByLocation_map {α β : Type} (f : α → β) (x : Location × α)
    (ys : List (Location × α)) :
    insertByLocation (x.map id f) (ys.map (Prod.map id f)) =
      (insertByLocation x ys).map (Prod.map id f) := by
  induction ys with
  | nil => rfl
  | cons y ys ih =>
    cases hle : x.1.le y.1 with
    | true => simp [insertByLocation, hle]
    | false => simp [insertByLocation, hle, ih]

theorem sortByLocation_map {α β : Type} (f : α → β) (xs : List (Location × α)) :
    sortByLocation (xs.map (Prod.map id f)) = (sortByLocation xs).map (Prod.map id f) := by
  induction xs with
  | nil => rfl
  | cons x xs ih =>
    change insertByLocation (x.map id f) (sortByLocation (xs.map (Prod.map id f))) = _
    rw [ih, insertByLocation_map]
    rfl

/-- The role with which a traversal starts changes nothing but roles. -/
theorem map_plain_walk (u : Tree) (ancestors : List Tree) (path : List Nat)
    (role role' : Option Role) :
    (walk ancestors path role u).map Occurrence.plain =
      (walk ancestors path role' u).map Occurrence.plain := by
  induction u using Tree.induct generalizing ancestors path role role' with
  | node f l s cs ih =>
    let plainBranch : Location × List Occurrence → Location × List Occurrence :=
      Prod.map id (List.map Occurrence.plain)
    have hbranches : (branches (.node f l s cs) ancestors path role).map plainBranch =
        (branches (.node f l s cs) ancestors path role').map plainBranch := by
      rw [branches, branches, ← sortByLocation_map, ← sortByLocation_map, List.map_map,
        List.map_map]
      refine congrArg sortByLocation (List.map_congr_left fun ci hci => ?_)
      have hc : ci.1 ∈ cs := List.mem_of_getElem? (List.mem_zipIdx_iff_getElem?.mp hci)
      exact congrArg (Prod.mk ci.1.location) (ih ci.1 hc _ _ _ _)
    have hflat (bs : List (Location × List Occurrence)) :
        (bs.flatMap (·.2)).map Occurrence.plain = (bs.map plainBranch).flatMap (·.2) := by
      rw [List.map_flatMap, List.flatMap_map]
      rfl
    rw [walk_eq, walk_eq, List.map_cons, List.map_cons, hflat, hflat, hbranches]
    rfl

/-- Without annotations a node has the kind that it has, unless it is a type reference. -/
theorem node?_plain (o : Occurrence) :
    o.plain.node? = o.node?.filter fun n => n.kind ≠ .typeRef := by
  change (classify o.tree o.ancestors none).map _ = _
  rw [Occurrence.node?, Option.filter_map]
  cases href : o.tree.label.isReference with
  | true =>
    rw [classify_of_reference href, classify_of_reference href]
    cases o.ancestors.head?.any (·.label.isMember) <;> cases o.role <;> rfl
  | false =>
    rw [classify_of_not_reference href o.ancestors o.role]
    cases hk : classify o.tree o.ancestors none with
    | none => rfl
    | some k =>
      have hne := kind_ne_typeRef_of_not_reference href hk
      simp [hne, Occurrence.plain]

/-! ### What a traversal meets below a node -/

section Below

variable {t : Tree} {o : Occurrence}

/-- What follows a node in its own traversal is what the traversal of the tree meets below it. -/
theorem drop_walk_eq (ho : o ∈ walk [] [] none t) :
    (walk o.ancestors o.path o.role o.tree).drop 1 =
      (walk [] [] none t).filter fun o' => IsAbove o.path o'.path := by
  obtain ⟨hat, habove⟩ := faithful_of_mem_walk_root ho
  obtain ⟨role, hblk, hfilter⟩ := exists_filter_walk_eq hat
  -- The traversal of the node starts with the node itself, so that its role is the one met there.
  have hhead := walk_eq o.tree (t.above o.path) o.path role
  have hself : (⟨o.tree, t.above o.path, o.path, role⟩ : Occurrence) = o := by
    refine eq_of_path_eq (hblk.subset ?_) ho rfl
    rw [hhead]
    exact List.mem_cons_self
  have hrole : role = o.role := congrArg Occurrence.role hself
  rw [hself] at hhead
  have hnodup : ((walk (t.above o.path) o.path role o.tree).map (·.path)).Nodup :=
    (nodup_walk_root t).sublist (hblk.sublist.map _)
  have hsplit : ((walk [] [] none t).filter fun o' => IsAbove o.path o'.path) =
      (walk (t.above o.path) o.path role o.tree).filter fun o' => o.path ≠ o'.path := by
    rw [← hfilter, List.filter_filter]
    refine List.filter_congr fun o' _ => ?_
    simp [IsAbove, and_comm]
  rw [habove, ← hrole, hsplit]
  rw [hhead] at hnodup ⊢
  have hrest := (List.nodup_cons.mp hnodup).1
  rw [List.drop_one, List.tail_cons, List.filter_cons_of_neg (by simp)]
  refine (List.filter_eq_self.mpr fun o' ho' => ?_).symm
  exact decide_eq_true fun heq => hrest (List.mem_map.mpr ⟨o', ho', heq.symm⟩)

/-- With another role at the start the same nodes are met below a node. -/
theorem map_plain_drop_walk (ho : o ∈ walk [] [] none t) (role : Option Role) :
    ((walk o.ancestors o.path role o.tree).drop 1).map Occurrence.plain =
      ((walk [] [] none t).filter fun o' => IsAbove o.path o'.path).map Occurrence.plain := by
  rw [← drop_walk_eq ho, List.map_drop, List.map_drop, map_plain_walk _ _ _ role o.role]

/-- A traversal that starts again meets a node with the role of the outermost annotation below the
start. -/
theorem role_of_mem_drop_walk (ho : o ∈ walk [] [] none t) {o' : Occurrence}
    (ho' : o' ∈ (walk o.ancestors o.path none o.tree).drop 1) (r : Role) :
    o'.role = some r ↔ t.AnnotatedBelow o.path o'.path r := by
  obtain ⟨hat, habove⟩ := faithful_of_mem_walk_root ho
  have hmem := List.mem_of_mem_drop ho'
  rw [habove] at hmem
  simpa using role_of_mem_walk (r := r) hat hmem

theorem exists_of_mem_drop_walk (ho : o ∈ walk [] [] none t) {o' : Occurrence}
    (ho' : o' ∈ (walk o.ancestors o.path none o.tree).drop 1) :
    ∃ o₂ ∈ walk [] [] none t, o₂.plain = o'.plain := by
  have hmem := List.mem_map_of_mem (f := Occurrence.plain) ho'
  rw [map_plain_drop_walk ho none, List.mem_map] at hmem
  obtain ⟨o₂, ho₂, heq⟩ := hmem
  exact ⟨o₂, (List.mem_filter.mp ho₂).1, heq⟩

theorem exists_mem_drop_walk (ho : o ∈ walk [] [] none t) {o₂ : Occurrence}
    (ho₂ : o₂ ∈ walk [] [] none t) (habove : IsAbove o.path o₂.path) :
    ∃ o' ∈ (walk o.ancestors o.path none o.tree).drop 1, o'.plain = o₂.plain := by
  refine List.mem_map.mp ?_
  rw [map_plain_drop_walk ho none]
  exact List.mem_map_of_mem (List.mem_filter.mpr ⟨ho₂, decide_eq_true habove⟩)

theorem path_of_node? {n : Node} (h : o.node? = some n) : n.path = o.path := by
  obtain ⟨kind, role, -, rfl⟩ := Occurrence.node?_eq_some.mp h
  rfl

/-- Nodes that are made of occurrences, each at its place, keep their order. -/
theorem pairwise_filterMap {f : Occurrence → Option Node} {os : List Occurrence}
    (hf : ∀ o n, f o = some n → n.path = o.path)
    (hos : os.Pairwise fun o o' => t.Ahead o.path o'.path) :
    (os.filterMap f).Pairwise fun a b => t.Ahead a.path b.path := by
  refine List.Pairwise.filterMap f ?_ hos
  intro o o' hahead a ha b hb
  rw [hf o a ha, hf o' b hb]
  exact hahead

theorem pairwise_nodes (t : Tree) : (nodes t).Pairwise fun a b => t.Ahead a.path b.path :=
  pairwise_filterMap (fun _ _ => path_of_node?) (pairwise_walk_root t)

/-- A choice among the nodes by their paths and by themselves is one among what is met. -/
theorem filterMap_filter_eq (P : List Nat → Bool) (Q : Node → Bool) :
    ((walk [] [] none t).filter fun o => P o.path).filterMap (fun o => o.node?.filter Q) =
      (nodes t).filter fun n => P n.path && Q n := by
  rw [nodes, List.filter_filterMap, List.filterMap_filter]
  refine List.filterMap_congr fun o _ => ?_
  cases hnode : o.node? with
  | none => cases P o.path <;> rfl
  | some n =>
    have hpath := path_of_node? hnode
    cases hP : P o.path <;> simp [Option.filter, hpath, hP]

end Below

/-! ### The classified nodes below a node -/

section Children

variable {t : Tree} {n m : Node}

theorem exists_occurrence_of_mem_nodes (hn : n ∈ nodes t) :
    ∃ o ∈ walk [] [] none t, o.tree = n.tree ∧ o.ancestors = n.ancestors ∧ o.path = n.path ∧
      classify o.tree o.ancestors o.role = some (n.kind, n.role) := by
  obtain ⟨o, ho, hnode⟩ := List.mem_filterMap.mp hn
  obtain ⟨kind, role, hclass, rfl⟩ := Occurrence.node?_eq_some.mp hnode
  exact ⟨o, ho, rfl, rfl, rfl, hclass⟩

/-- A type reference, or a node that lies in no annotation, sees all nodes below it. -/
theorem children_eq_filter (hn : n ∈ nodes t)
    (h : n.kind = .typeRef ∨ ∀ r, ¬ t.Annotated n.path r) (k : Option Kind) :
    n.children k =
      (nodes t).filter fun m => IsAbove n.path m.path ∧ k.all (·.covers m.kind) = true := by
  obtain ⟨o, ho, htree, hancestors, hpath, hclass⟩ := exists_occurrence_of_mem_nodes hn
  -- The role with which the traversal starts again is the one met at the node.
  have hrole : (if n.kind = .typeRef then n.role else none) = o.role := by
    split
    case isTrue hkind =>
      rw [hkind] at hclass
      obtain ⟨-, -, r, hr, hr'⟩ := classify_eq_typeRef_iff.mp hclass
      rw [hr, hr']
    case isFalse hkind =>
      refine (Option.eq_none_iff_forall_ne_some.mpr fun r hr => ?_).symm
      have hannotated := (role_of_mem_walk_root ho).mp hr
      exact h.resolve_left hkind r (hpath ▸ hannotated)
  rw [Node.children, hrole, ← htree, ← hancestors, ← hpath, drop_walk_eq ho,
    filterMap_filter_eq (fun path => decide (IsAbove o.path path))]
  exact List.filter_congr fun m _ => by simp

/-- Every node sees what lies below it, apart from type references. -/
theorem filter_children_eq (hn : n ∈ nodes t) (k : Option Kind) :
    (n.children k).filter (·.kind ≠ .typeRef) =
      (nodes t).filter fun m =>
        IsAbove n.path m.path ∧ k.all (·.covers m.kind) = true ∧ m.kind ≠ .typeRef := by
  obtain ⟨o, ho, htree, hancestors, hpath, -⟩ := exists_occurrence_of_mem_nodes hn
  let covered (o : Occurrence) : Option Node :=
    o.node?.filter fun m => k.all (·.covers m.kind) && m.kind ≠ .typeRef
  -- A node that is no type reference is found without its role.
  have hplain (os : List Occurrence) : os.filterMap covered =
      (os.map Occurrence.plain).filterMap fun o =>
        o.node?.filter fun m => k.all (·.covers m.kind) := by
    rw [List.filterMap_map]
    refine List.filterMap_congr fun o _ => ?_
    simp only [Function.comp, node?_plain, covered, Option.filter_filter]
    exact congrArg (fun p => o.node?.filter p) (funext fun m => Bool.and_comm _ _)
  have hfilter (os : List Occurrence) :
      (os.filterMap fun o => o.node?.filter fun m => k.all (·.covers m.kind)).filter
        (·.kind ≠ .typeRef) = os.filterMap covered := by
    rw [List.filter_filterMap]
    refine List.filterMap_congr fun o _ => ?_
    simp only [covered, Option.filter_filter, Bool.and_comm]
  rw [Node.children, hfilter, hplain, ← htree, ← hancestors, ← hpath, map_plain_drop_walk ho,
    ← hplain, filterMap_filter_eq (fun path => decide (IsAbove o.path path))]
  exact List.filter_congr fun m _ => by simp

/-- What is no type reference itself sees the type references in annotations below it, with the
roles of the outermost of these. -/
theorem mem_children_typeRef_iff (hn : n ∈ nodes t) (hkind : n.kind ≠ .typeRef)
    (hm : m.kind = .typeRef) (k : Option Kind) :
    m ∈ n.children k ↔ k.all (·.covers .typeRef) = true ∧
      ∃ r, m.role = some r ∧ t.AnnotatedBelow n.path m.path r ∧
        ∃ r', { m with role := some r' } ∈ nodes t := by
  obtain ⟨o, ho, htree, hancestors, hpath, -⟩ := exists_occurrence_of_mem_nodes hn
  rw [Node.children, if_neg hkind, ← htree, ← hancestors, ← hpath, List.mem_filterMap]
  constructor
  · rintro ⟨o₁, ho₁, hnode₁⟩
    obtain ⟨hnode₁, hcovers⟩ := Option.filter_eq_some_iff.mp hnode₁
    rw [hm] at hcovers
    obtain ⟨hplain₁, href, hparent, r, hr, hmr⟩ := (node?_eq_typeRef_iff hm).mp hnode₁
    have hbelow := (role_of_mem_drop_walk ho ho₁ r).mp hr
    rw [(Occurrence.plain_eq_iff.mp hplain₁).2.2] at hbelow
    -- The node lies in an annotation of the whole tree too, perhaps in one with another role.
    obtain ⟨s, -, hsuf, hs, -⟩ := id hbelow
    obtain ⟨r', hr'⟩ := Tree.exists_annotated hsuf hs
    obtain ⟨o₂, ho₂, hplain₂⟩ := exists_of_mem_drop_walk ho ho₁
    have hplain : o₂.plain = m.plain := hplain₂.trans hplain₁
    have hrole₂ : o₂.role = some r' := by
      rw [role_of_mem_walk_root ho₂, (Occurrence.plain_eq_iff.mp hplain).2.2]
      exact hr'
    have hnode₂ : o₂.node? = some { m with role := some r' } :=
      (node?_eq_typeRef_iff (n := { m with role := some r' }) hm).mpr
        ⟨hplain, href, hparent, r', hrole₂, rfl⟩
    exact ⟨hcovers, r, hmr, hbelow, r', List.mem_filterMap.mpr ⟨o₂, ho₂, hnode₂⟩⟩
  · rintro ⟨hcovers, r, hmr, hbelow, r', hmem⟩
    obtain ⟨o₂, ho₂, hnode₂⟩ := List.mem_filterMap.mp hmem
    obtain ⟨hplain₂, href, hparent, -⟩ :=
      (node?_eq_typeRef_iff (n := { m with role := some r' }) hm).mp hnode₂
    obtain ⟨s, habove, hsuf, -, -⟩ := id hbelow
    have habove₂ : IsAbove o.path o₂.path := by
      rw [(Occurrence.plain_eq_iff.mp hplain₂).2.2]
      exact habove.of_suffix hsuf
    obtain ⟨o₁, ho₁, hplain₁⟩ := exists_mem_drop_walk ho ho₂ habove₂
    have hplain : o₁.plain = m.plain := hplain₁.trans hplain₂
    have hrole₁ : o₁.role = some r := by
      rw [role_of_mem_drop_walk ho ho₁, (Occurrence.plain_eq_iff.mp hplain).2.2]
      exact hbelow
    have hnode₁ := (node?_eq_typeRef_iff hm).mpr ⟨hplain, href, hparent, r, hrole₁, hmr⟩
    exact ⟨o₁, ho₁, Option.filter_eq_some_iff.mpr ⟨hnode₁, by rwa [hm]⟩⟩

theorem isAbove_of_mem_children (hn : n ∈ nodes t) {k : Option Kind} (hm : m ∈ n.children k) :
    IsAbove n.path m.path := by
  by_cases hkind : n.kind = .typeRef
  · rw [children_eq_filter hn (.inl hkind), List.mem_filter] at hm
    exact (of_decide_eq_true hm.2).1
  · by_cases href : m.kind = .typeRef
    · obtain ⟨-, r, -, ⟨s, habove, hsuf, -⟩, -⟩ :=
        (mem_children_typeRef_iff hn hkind href k).mp hm
      exact habove.of_suffix hsuf
    · have hfilter : m ∈ (n.children k).filter (·.kind ≠ .typeRef) :=
        List.mem_filter.mpr ⟨hm, decide_eq_true href⟩
      rw [filter_children_eq hn, List.mem_filter] at hfilter
      exact (of_decide_eq_true hfilter.2).1

/-- What lies below a node is seen in document order. -/
theorem pairwise_children (hn : n ∈ nodes t) (k : Option Kind) :
    (n.children k).Pairwise fun a b => t.Ahead a.path b.path := by
  obtain ⟨hat, habove⟩ := faithful_of_mem_nodes hn
  rw [Node.children, habove]
  refine pairwise_filterMap (fun o m hm => ?_)
    ((pairwise_walk hat).sublist (List.drop_sublist 1 _))
  exact path_of_node? (Option.filter_eq_some_iff.mp hm).1

end Children

end Source

namespace SourceUnit

/-- What a node of a unit sees below itself. -/
structure SeesBelow (u : SourceUnit) (t : Tree) (n : Node) : Prop where
  /-- A type reference, or a node in no annotation, sees the nodes of a kind that the unit shows
  below it, just as the unit shows them. -/
  whole : (n.kind = .typeRef ∨ ∀ r, ¬ t.Annotated n.path r) → ∀ k, n.children k =
    u.nodes.filter fun m => IsAbove n.path m.path ∧ k.all (·.covers m.kind) = true
  /-- Every node sees those of them that are no type references, -/
  others : ∀ k, (n.children k).filter (·.kind ≠ .typeRef) = u.nodes.filter fun m =>
    IsAbove n.path m.path ∧ k.all (·.covers m.kind) = true ∧ m.kind ≠ .typeRef
  /-- and what is no type reference itself sees the type references in annotations below it, with
  the roles of the outermost of these. -/
  references : n.kind ≠ .typeRef → ∀ k m, m.kind = .typeRef →
    (m ∈ n.children k ↔ k.all (·.covers .typeRef) = true ∧
      ∃ r, m.role = some r ∧ t.AnnotatedBelow n.path m.path r ∧
        ∃ r', { m with role := some r' } ∈ u.nodes)
  /-- What is seen comes in document order, -/
  in_order : ∀ k, (n.children k).Pairwise fun a b => t.Ahead a.path b.path
  /-- and the node itself is not seen. -/
  below : ∀ k, ∀ m ∈ n.children k, IsAbove n.path m.path

theorem children_in_document_order (u : SourceUnit) (t : Tree) (h : u.tree? = some t) (n : Node)
    (hn : n ∈ u.nodes) : u.SeesBelow t n := by
  have hnodes := nodes_eq h
  rw [hnodes] at hn
  exact {
    whole := fun hwhole k => hnodes ▸ children_eq_filter hn hwhole k
    others := fun k => hnodes ▸ filter_children_eq hn k
    references := fun hkind k m hm => hnodes ▸ mem_children_typeRef_iff hn hkind hm k
    in_order := pairwise_children hn
    below := fun _ _ hm => isAbove_of_mem_children hn hm }

/-- A function whose return annotation is a call:

    def f() -> g(x): pass
-/
def annotatedTree : Tree :=
  .node .root .module none [
    .node .body (.functionDef "f") (some ⟨1, 0⟩) [
      .node .args .arguments none [],
      .node .body .pass (some ⟨1, 17⟩) [],
      .node .returns .call (some ⟨1, 11⟩) [
        .node .func (.name "g") (some ⟨1, 11⟩) [],
        .node .args (.name "x") (some ⟨1, 13⟩) []]]]

def annotatedUnit : SourceUnit := ⟨"a.py", .parsed annotatedTree⟩

/-- The function sees the call and both type references below it. -/
theorem children_in_document_order_annotated :
    annotatedUnit.tree? = some annotatedTree ∧ ∃ n ∈ annotatedUnit.nodes, n.kind = .method ∧
      n.children none = annotatedUnit.nodes.filter (fun m => IsAbove n.path m.path) ∧
      (n.children none).map (·.path) = [[2, 0], [0, 2, 0], [1, 2, 0]] := by
  let n := annotatedUnit.nodes.get ⟨0, by decide⟩
  have hn : n ∈ annotatedUnit.nodes := List.get_mem _ _
  -- The function itself is met without a role, so that it lies in no annotation.
  have hplain (r : Role) : ¬ annotatedTree.Annotated n.path r := by
    have ho : (walk [] [] none annotatedTree).get ⟨1, by decide⟩ ∈ walk [] [] none annotatedTree :=
      List.get_mem _ _
    intro hr
    cases (role_of_mem_walk_root ho).mpr hr
  have hsees := children_in_document_order annotatedUnit annotatedTree rfl n hn
  refine ⟨rfl, n, hn, rfl, ?_, by decide⟩
  simpa using hsees.whole (.inr hplain) none

/-- The call in the annotation sees none of the type references below it. -/
theorem children_of_annotated_call :
    annotatedTree.IsModule ∧ ∃ n ∈ annotatedUnit.nodes, n.kind = .call ∧ n.children none = [] ∧
      ((annotatedUnit.nodes.filter fun m => IsAbove n.path m.path).map fun m =>
        (m.kind, m.path, m.role)) =
        [(.typeRef, [0, 2, 0], some .returned), (.typeRef, [1, 2, 0], some .returned)] := by
  refine ⟨by decide, annotatedUnit.nodes.get ⟨1, by decide⟩, List.get_mem _ _, rfl, rfl, ?_⟩
  decide

end SourceUnit

end Grader
