import Mathlib
import Grader.Source.Unit
import Grader.Proofs.Source.Walk
import Grader.Proofs.Source.Grammar

/-!
Classified nodes of a unit. They are the nodes of the traversal that have a kind, each of them
once and with that kind only, and what is selected by a kind is what the traversal shows of it.
-/

namespace Grader

open Source

namespace Source

theorem map_filterMap_sublist {α β γ : Type} {f : α → Option β} {g : β → γ} {h : α → γ}
    (hf : ∀ a b, f a = some b → g b = h a) (l : List α) :
    ((l.filterMap f).map g).Sublist (l.map h) := by
  induction l with
  | nil => exact List.Sublist.refl _
  | cons a l ih =>
    cases hfa : f a with
    | none =>
      rw [List.filterMap_cons_none hfa]
      exact ih.cons _
    | some b =>
      rw [List.filterMap_cons_some hfa, List.map_cons, List.map_cons, hf a b hfa]
      exact ih.cons_cons _

/-- A filter by the key of an item leaves that item alone, as no other has the key. -/
theorem filter_eq_singleton {α κ : Type} [DecidableEq κ] {key : α → κ} {l : List α} {a : α}
    (hnodup : (l.map key).Nodup) (ha : a ∈ l) : l.filter (fun x => key x = key a) = [a] := by
  obtain ⟨front, back, hl⟩ := List.append_of_mem ha
  refine filter_eq_of_infix ⟨front, back, by rw [hl, List.append_assoc]; rfl⟩ hnodup.of_map
    (by simp) fun x hx hkey => ?_
  rw [List.mem_singleton]
  exact List.inj_on_of_nodup_map hnodup hx ha (of_decide_eq_true hkey)

theorem Occurrence.node?_eq_some {o : Occurrence} {n : Node} :
    o.node? = some n ↔ ∃ kind role, classify o.tree o.ancestors o.role = some (kind, role) ∧
      ⟨kind, o.tree, o.ancestors, o.path, role⟩ = n := by
  simp only [Occurrence.node?, Option.map_eq_some_iff, Prod.exists]

/-- The kind of an assignment is settled by the scope around it. -/
theorem classify_assignment {t scope : Tree} {ancestors : List Tree} (role : Option Role)
    (ht : t.label = .assign ∨ t.label = .annAssign) (hscope : scopeIn ancestors = some scope)
    (hlabel : scope.label = .module ∨ scope.label.isClass = true ∨
      scope.label.isFunction = true) :
    ∃ kind, classify t ancestors role = some (kind, none) ∧
      (kind = .field ∨ kind = .localVariable) := by
  obtain ⟨f, l, s, cs⟩ := scope
  rcases ht with ht | ht <;> cases l <;>
    simp_all [classify, Tree.label, Label.isClass, Label.isFunction]

section Nodes

variable {t : Tree}

theorem paths_nodes_sublist (t : Tree) :
    ((nodes t).map (·.path)).Sublist ((walk [] [] none t).map (·.path)) := by
  refine map_filterMap_sublist (fun o n h => ?_) _
  obtain ⟨kind, role, -, rfl⟩ := Occurrence.node?_eq_some.mp h
  rfl

theorem nodup_paths_nodes (t : Tree) : ((nodes t).map (·.path)).Nodup :=
  (paths_nodes_sublist t).nodup (nodup_walk_root t)

/-- The path of a node tells it apart from all others. -/
theorem eq_of_mem_nodes {n m : Node} (hn : n ∈ nodes t) (hm : m ∈ nodes t)
    (h : n.path = m.path) : n = m :=
  List.inj_on_of_nodup_map (nodup_paths_nodes t) hn hm h

theorem faithful_of_mem_nodes {n : Node} (hn : n ∈ nodes t) :
    t.at? n.path = some n.tree ∧ n.ancestors = t.above n.path := by
  obtain ⟨o, ho, hnode⟩ := List.mem_filterMap.mp hn
  obtain ⟨kind, role, -, rfl⟩ := Occurrence.node?_eq_some.mp hnode
  exact faithful_of_mem_walk_root ho

theorem mem_nodes_of_classify {o : Occurrence} (ho : o ∈ walk [] [] none t) {kind : Kind}
    {role : Option Role} (h : classify o.tree o.ancestors o.role = some (kind, role)) :
    ⟨kind, o.tree, o.ancestors, o.path, role⟩ ∈ nodes t :=
  List.mem_filterMap.mpr ⟨o, ho, Occurrence.node?_eq_some.mpr ⟨kind, role, h, rfl⟩⟩

/-- Every assignment of a module is a classified node, a field or a variable. -/
theorem exists_node_of_assignment {v : Tree} {path : List Nat} (ht : t.IsModule)
    (hv : t.at? path = some v) (hlabel : v.label = .assign ∨ v.label = .annAssign) :
    ∃ n ∈ nodes t, n.path = path ∧ (n.kind = .field ∨ n.kind = .localVariable) := by
  have hwalked : path ∈ (walk [] [] none t).map (·.path) := by
    rw [mem_paths_walk_root, hv]
    rfl
  obtain ⟨o, ho, rfl⟩ := List.mem_map.mp hwalked
  obtain ⟨hat, habove⟩ := faithful_of_mem_walk_root ho
  obtain rfl : o.tree = v := Option.some.inj (hat.symm.trans hv)
  obtain ⟨scope, hscope, hscopeLabel⟩ : ∃ scope, scopeIn o.ancestors = some scope ∧
      (scope.label = .module ∨ scope.label.isClass = true ∨ scope.label.isFunction = true) := by
    rw [habove]
    cases hpath : o.path with
    | nil =>
      -- The root is a module and no assignment.
      rw [hpath, Tree.at?_nil, Option.some.injEq] at hat
      rw [← hat, ht.1] at hlabel
      simp at hlabel
    | cons i path =>
      refine exists_scopeIn_above ht (hpath ▸ hat) ?_
      rcases hlabel with h | h <;> rw [h] <;> rfl
  obtain ⟨kind, hkind, hor⟩ := classify_assignment o.role hlabel hscope hscopeLabel
  exact ⟨_, mem_nodes_of_classify ho hkind, rfl, hor⟩

end Nodes

end Source

namespace SourceUnit

/-- What a unit shows of the tree of its text. -/
structure Shows (u : SourceUnit) (t : Tree) : Prop where
  /-- What a kind selects are the nodes of that kind, -/
  selected : ∀ kind, kind ≠ .callable → u.select kind = u.nodes.filter (·.kind = kind)
  /-- and callables are methods and constructors. -/
  callables : u.select .callable =
    u.nodes.filter fun n => n.kind = .method ∨ n.kind = .constructor
  /-- Classified nodes come in the order of the traversal, -/
  in_order : (u.nodes.map (·.path)).Sublist ((walk [] [] none t).map (·.path))
  /-- each with what is below it and with the chain of the nodes above it; -/
  faithful : ∀ n ∈ u.nodes, t.at? n.path = some n.tree ∧ n.ancestors = t.above n.path
  /-- whatever has a kind comes with that kind, -/
  complete : ∀ o ∈ walk [] [] none t, ∀ kind role,
    classify o.tree o.ancestors o.role = some (kind, role) →
      ⟨kind, o.tree, o.ancestors, o.path, role⟩ ∈ u.nodes
  /-- and no node comes twice, so that none comes under two kinds. -/
  once : (u.nodes.map (·.path)).Nodup
  /-- Every assignment of a module comes exactly once, as a field or as a variable. -/
  assignments : t.IsModule → ∀ path v, t.at? path = some v →
    v.label = .assign ∨ v.label = .annAssign →
      ∃ n, u.nodes.filter (·.path = path) = [n] ∧ (n.kind = .field ∨ n.kind = .localVariable)

variable {u : SourceUnit} {t : Tree}

theorem nodes_eq (h : u.tree? = some t) : u.nodes = Source.nodes t := by
  rw [nodes, h]
  rfl

/-- A selection shows what the kind covers of all classified nodes. -/
theorem select_eq_filter (h : u.tree? = some t) (kind : Kind) :
    u.select kind = u.nodes.filter fun n => kind.covers n.kind := by
  rw [nodes_eq h, select, h, Source.nodes, List.filter_filterMap]
  rfl

theorem shows_tree (h : u.tree? = some t) : u.Shows t where
  selected kind hkind := by
    rw [select_eq_filter h]
    refine List.filter_congr fun n _ => ?_
    cases kind <;> first | rfl | exact absurd rfl hkind
  callables := by
    rw [select_eq_filter h]
    exact List.filter_congr fun n _ => by cases n.kind <;> rfl
  in_order := nodes_eq h ▸ paths_nodes_sublist t
  faithful n hn := faithful_of_mem_nodes (nodes_eq h ▸ hn)
  complete o ho kind role hkind := nodes_eq h ▸ mem_nodes_of_classify ho hkind
  once := nodes_eq h ▸ nodup_paths_nodes t
  assignments ht path v hv hlabel := by
    obtain ⟨n, hn, rfl, hkind⟩ := exists_node_of_assignment ht hv hlabel
    rw [nodes_eq h]
    exact ⟨n, filter_eq_singleton (nodup_paths_nodes t) hn, hkind⟩

/-- A selection comes in the order of all classified nodes, -/
theorem select_sublist_nodes (h : u.tree? = some t) (kind : Kind) :
    (u.select kind).Sublist u.nodes := by
  rw [select_eq_filter h]
  exact List.filter_sublist

/-- and no node comes twice in it. -/
theorem nodup_paths_select (h : u.tree? = some t) (kind : Kind) :
    ((u.select kind).map (·.path)).Nodup :=
  (shows_tree h).once.sublist ((select_sublist_nodes h kind).map _)

/-- The traversal of a unit meets the nodes of its tree in document order, and the unit shows the
classified ones of them, once each and in that order. -/
theorem shown_in_document_order (u : SourceUnit) (t : Tree) (h : u.tree? = some t) :
    DocumentOrder t (walk [] [] none t) ∧ u.Shows t :=
  ⟨documentOrder_walk t, shows_tree h⟩

/-- A decorated function with one parameter and an assignment:

    @d
    def f(a): x = 1
-/
def decoratedTree : Tree :=
  .node .root .module none [
    .node .body (.functionDef "f") (some ⟨2, 0⟩) [
      .node .args .arguments none [.node .args (.arg "a") (some ⟨2, 6⟩) []],
      .node .body .assign (some ⟨2, 10⟩) [
        .node .targets (.name "x") (some ⟨2, 10⟩) [],
        .node .value (.constant (.number false)) (some ⟨2, 14⟩) []],
      .node .decorators (.name "d") (some ⟨1, 1⟩) []]]

/-- The decorator, which is stored behind the body, is met before the parameter and the body, and
the assignment comes once. -/
theorem shown_in_document_order_decorated :
    decoratedTree.IsModule ∧ (walk [] [] none decoratedTree).map (·.path) =
      [[], [0], [2, 0], [0, 0], [0, 0, 0], [1, 0], [0, 1, 0], [1, 1, 0]] ∧
    DocumentOrder decoratedTree (walk [] [] none decoratedTree) ∧
    ∃ n, (SourceUnit.mk "f.py" (.parsed decoratedTree)).nodes.filter (·.path = [1, 0]) = [n] ∧
      (n.kind = .field ∨ n.kind = .localVariable) := by
  have hmodule : decoratedTree.IsModule := by decide
  obtain ⟨horder, hshows⟩ :=
    shown_in_document_order ⟨"f.py", .parsed decoratedTree⟩ decoratedTree rfl
  exact ⟨hmodule, by decide, horder, hshows.assignments hmodule [1, 0] _ rfl (.inl rfl)⟩

end SourceUnit

end Grader
