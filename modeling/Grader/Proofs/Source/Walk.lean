import Mathlib
import Grader.Source.Walk
import Grader.Proofs.Source.Tree

/-!
The order of a traversal. Two nodes of which neither lies above the other leave a common ancestor
by two branches, and the branch that lies first, by place and then by index, is walked first. A
traversal meets every node of the tree once, a node before what is below it, and everything below
a node without a gap.
-/

namespace Grader.Source

/-! ### The stable sort by place -/

section Places

variable {α : Type}

theorem perm_insertByLocation (x : Location × α) (ys : List (Location × α)) :
    (insertByLocation x ys).Perm (x :: ys) := by
  induction ys with
  | nil => exact List.Perm.refl _
  | cons y ys ih =>
    rw [insertByLocation]
    split
    · exact List.Perm.refl _
    · exact (ih.cons y).trans (List.Perm.swap x y ys)

theorem perm_sortByLocation (xs : List (Location × α)) : (sortByLocation xs).Perm xs := by
  induction xs with
  | nil => exact List.Perm.refl _
  | cons x xs ih => exact (perm_insertByLocation x _).trans (ih.cons x)

/-- In the order of the places, and related as before the sort where the places agree. -/
def InOrder (R : Location × α → Location × α → Prop) (x y : Location × α) : Prop :=
  x.1 < y.1 ∨ x.1 = y.1 ∧ R x y

variable {R : Location × α → Location × α → Prop}

theorem InOrder.le {x y : Location × α} (h : InOrder R x y) : x.1 ≤ y.1 :=
  h.elim le_of_lt fun h => le_of_eq h.1

theorem inOrder_of_le {x y : Location × α} (h : x.1 ≤ y.1) (hR : R x y) : InOrder R x y :=
  h.lt_or_eq.imp_right fun heq => ⟨heq, hR⟩

theorem pairwise_insertByLocation {x : Location × α} {ys : List (Location × α)}
    (hx : ∀ y ∈ ys, R x y) (hys : ys.Pairwise (InOrder R)) :
    (insertByLocation x ys).Pairwise (InOrder R) := by
  induction ys with
  | nil => exact List.pairwise_singleton _ x
  | cons y ys ih =>
    obtain ⟨hy, htail⟩ := List.pairwise_cons.mp hys
    rw [insertByLocation]
    split
    case isTrue hle =>
      rw [Location.le_eq_true] at hle
      refine List.pairwise_cons.mpr ⟨fun z hz => inOrder_of_le ?_ (hx z hz), hys⟩
      rcases List.mem_cons.mp hz with rfl | hz
      · exact hle
      · exact hle.trans (hy z hz).le
    case isFalse hle =>
      rw [Location.le_eq_true, not_le] at hle
      refine List.pairwise_cons.mpr ⟨fun z hz => ?_, ih (fun z hz => hx z (.tail y hz)) htail⟩
      rcases List.mem_cons.mp ((perm_insertByLocation x ys).mem_iff.mp hz) with rfl | hz
      · exact .inl hle
      · exact hy z hz

theorem pairwise_sortByLocation {xs : List (Location × α)} (h : xs.Pairwise R) :
    (sortByLocation xs).Pairwise (InOrder R) := by
  induction h with
  | nil => exact List.Pairwise.nil
  | cons hx _ ih =>
    exact pairwise_insertByLocation (fun y hy => hx y ((perm_sortByLocation _).mem_iff.mp hy)) ih

end Places

/-! ### Traversals of the children -/

section Children

variable (parent : Tree) (ancestors : List Tree) (path : List Nat) (role : Option Role)

/-- The traversal of the child at an index, with the place of the child. -/
def branch (c : Tree) (i : Nat) : Location × List Occurrence :=
  (c.location, walk (parent :: ancestors) (i :: path)
    (role <|> annotationRole parent.label c.field ancestors) c)

theorem walkChildren_eq (n : Nat) (cs : List Tree) :
    walkChildren parent ancestors path role n cs =
      (cs.zipIdx n).map fun ci => branch parent ancestors path role ci.1 ci.2 := by
  induction cs generalizing n with
  | nil => rw [walkChildren]; rfl
  | cons c cs ih => rw [walkChildren, ih, List.zipIdx_cons, List.map_cons, branch]

/-- The traversals of the children in the order of their places. -/
def branches : List (Location × List Occurrence) :=
  sortByLocation ((parent.children.zipIdx).map fun ci =>
    branch parent ancestors path role ci.1 ci.2)

theorem walk_eq : walk ancestors path role parent =
    ⟨parent, ancestors, path, role⟩ :: (branches parent ancestors path role).flatMap (·.2) := by
  obtain ⟨f, l, s, cs⟩ := parent
  rw [walk, walkChildren_eq]
  rfl

variable {parent ancestors path role}

theorem mem_branches {b : Location × List Occurrence} :
    b ∈ branches parent ancestors path role ↔
      ∃ i c, parent.children[i]? = some c ∧ b = branch parent ancestors path role c i := by
  rw [branches, (perm_sortByLocation _).mem_iff, List.mem_map]
  constructor
  · rintro ⟨⟨c, i⟩, h, rfl⟩
    exact ⟨i, c, List.mem_zipIdx_iff_getElem?.mp h, rfl⟩
  · rintro ⟨i, c, h, rfl⟩
    exact ⟨(c, i), List.mem_zipIdx_iff_getElem?.mpr h, rfl⟩

/-- What is walked is the node itself or in the traversal of a child. -/
theorem mem_walk {o : Occurrence} :
    o ∈ walk ancestors path role parent ↔ o = ⟨parent, ancestors, path, role⟩ ∨
      ∃ i c, parent.children[i]? = some c ∧ o ∈ (branch parent ancestors path role c i).2 := by
  rw [walk_eq, List.mem_cons, List.mem_flatMap]
  refine or_congr_right ⟨?_, ?_⟩
  · rintro ⟨b, hb, ho⟩
    obtain ⟨i, c, hc, rfl⟩ := mem_branches.mp hb
    exact ⟨i, c, hc, ho⟩
  · rintro ⟨i, c, hc, ho⟩
    exact ⟨_, mem_branches.mpr ⟨i, c, hc, rfl⟩, ho⟩

/-- The branches lie in the order of their places, and of their indices at one place. -/
theorem pairwise_branches : (branches parent ancestors path role).Pairwise fun b b' =>
    ∃ i j c c', parent.children[i]? = some c ∧ parent.children[j]? = some c' ∧
      b = branch parent ancestors path role c i ∧ b' = branch parent ancestors path role c' j ∧
      (c.location < c'.location ∨ c.location = c'.location ∧ i < j) := by
  let R (b b' : Location × List Occurrence) : Prop :=
    ∃ i j c c', parent.children[i]? = some c ∧ parent.children[j]? = some c' ∧
      b = branch parent ancestors path role c i ∧ b' = branch parent ancestors path role c' j ∧
      i < j
  have hfield : ((parent.children.zipIdx).map fun ci =>
      branch parent ancestors path role ci.1 ci.2).Pairwise R := by
    rw [List.pairwise_map, List.pairwise_iff_getElem]
    intro i j hi hj hij
    simp only [List.length_zipIdx] at hi hj
    exact ⟨i, j, parent.children[i], parent.children[j], by simp, by simp, by simp, by simp, hij⟩
  refine (pairwise_sortByLocation hfield).imp_of_mem fun hb hb' hlt => ?_
  rcases hlt with hlt | ⟨heq, i, j, c, c', hc, hc', rfl, rfl, hij⟩
  · obtain ⟨i, c, hc, rfl⟩ := mem_branches.mp hb
    obtain ⟨j, c', hc', rfl⟩ := mem_branches.mp hb'
    exact ⟨i, j, c, c', hc, hc', rfl, rfl, .inl hlt⟩
  · exact ⟨i, j, c, c', hc, hc', rfl, rfl, .inr ⟨heq, hij⟩⟩

/-- The traversal of a child is a block of that of its parent. -/
theorem branch_infix_walk {c : Tree} {i : Nat} (h : parent.children[i]? = some c) :
    (branch parent ancestors path role c i).2 <:+: walk ancestors path role parent := by
  rw [walk_eq, List.flatMap_def]
  exact (List.infix_of_mem_flatten (List.mem_map_of_mem (mem_branches.mpr ⟨i, c, h, rfl⟩))).trans
    (List.suffix_cons _ _).isInfix

end Children

/-! ### Branches -/

namespace Tree

/-- Whether the node at `p` leaves the lowest node above it and the one at `q` by a branch that
lies first: by its place, or by its index if both branches lie at one place. -/
def Precedes (t : Tree) (p q : List Nat) : Prop :=
  ∃ (common a b : List Nat) (i j : Nat) (x y : Tree) (k l : Location),
    p = a ++ i :: common ∧ q = b ++ j :: common ∧
    t.at? (i :: common) = some x ∧ t.at? (j :: common) = some y ∧
    x.LiesAt k ∧ y.LiesAt l ∧ (k < l ∨ k = l ∧ i < j)

/-- What a traversal has met before the node at `q`: the nodes above it, and those on branches
that lie first. -/
def Ahead (t : Tree) (p q : List Nat) : Prop := p <:+ q ∧ p ≠ q ∨ t.Precedes p q

section Parting

variable {a b a' b' w w' : List Nat} {i j i' j' : Nat}

/-- Neither of two paths that part ends with the other. -/
theorem not_suffix_of_parting (hij : i ≠ j) : ¬ a ++ i :: w <:+ b ++ j :: w := by
  intro h
  have hi : i :: w <:+ b ++ j :: w := (List.suffix_append a _).trans h
  have heq : i :: w = j :: w :=
    (List.suffix_of_suffix_length_le hi (List.suffix_append b _) (by simp)).eq_of_length (by simp)
  exact hij (List.cons.inj heq).1

theorem parting_le (hp : a ++ i :: w = a' ++ i' :: w') (hq : b ++ j :: w = b' ++ j' :: w')
    (hij : i ≠ j) : w'.length ≤ w.length := by
  by_contra hlt
  rw [not_le] at hlt
  -- Were the second common end longer, both first steps would stand in it at one index.
  have hi : i :: w <:+ w' :=
    List.suffix_of_suffix_length_le (hp ▸ List.suffix_append a _)
      ((List.suffix_cons i' w').trans (List.suffix_append a' _)) (by simpa using hlt)
  have hj : j :: w <:+ w' :=
    List.suffix_of_suffix_length_le (hq ▸ List.suffix_append b _)
      ((List.suffix_cons j' w').trans (List.suffix_append b' _)) (by simpa using hlt)
  have heq : i :: w = j :: w :=
    (List.suffix_of_suffix_length_le hi hj (by simp)).eq_of_length (by simp)
  exact hij (List.cons.inj heq).1

/-- Two paths part at one node only. -/
theorem parting_unique (hp : a ++ i :: w = a' ++ i' :: w') (hq : b ++ j :: w = b' ++ j' :: w')
    (hij : i ≠ j) (hij' : i' ≠ j') : w = w' ∧ i = i' ∧ j = j' := by
  have hlen : w.length = w'.length :=
    le_antisymm (parting_le hp.symm hq.symm hij') (parting_le hp hq hij)
  have hi := List.cons.inj (List.append_inj' hp (by simp [hlen])).2
  have hj := List.cons.inj (List.append_inj' hq (by simp [hlen])).2
  exact ⟨hi.2, hi.1, hj.1⟩

end Parting

variable {t : Tree} {p q : List Nat}

/-- Branches of which one lies first are different ones. -/
theorem ne_of_lies {w : List Nat} {i j : Nat} {x y : Tree} {k l : Location}
    (hx : t.at? (i :: w) = some x) (hy : t.at? (j :: w) = some y) (hk : x.LiesAt k)
    (hl : y.LiesAt l) (h : k < l ∨ k = l ∧ i < j) : i ≠ j := by
  rintro rfl
  obtain rfl : x = y := Option.some.inj (hx.symm.trans hy)
  obtain rfl := hk.unique hl
  simp at h

theorem Precedes.not_suffix (h : t.Precedes p q) : ¬ p <:+ q ∧ ¬ q <:+ p := by
  obtain ⟨w, a, b, i, j, x, y, k, l, rfl, rfl, hx, hy, hk, hl, hlt⟩ := h
  have hij := ne_of_lies hx hy hk hl hlt
  exact ⟨not_suffix_of_parting hij, not_suffix_of_parting hij.symm⟩

theorem Precedes.asymm (h : t.Precedes p q) : ¬ t.Precedes q p := by
  obtain ⟨w, a, b, i, j, x, y, k, l, rfl, rfl, hx, hy, hk, hl, hlt⟩ := h
  rintro ⟨w', b', a', j', i', y', x', l', k', hq, hp, hy', hx', hl', hk', hlt'⟩
  obtain ⟨rfl, rfl, rfl⟩ := parting_unique hp hq (ne_of_lies hx hy hk hl hlt)
    (ne_of_lies hy' hx' hl' hk' hlt').symm
  obtain rfl : x = x' := Option.some.inj (hx.symm.trans hx')
  obtain rfl : y = y' := Option.some.inj (hy.symm.trans hy')
  obtain rfl := hk.unique hk'
  obtain rfl := hl.unique hl'
  have hfirst : toLex (k, i) < toLex (l, j) := Prod.Lex.toLex_lt_toLex.mpr hlt
  have hback : toLex (l, j) < toLex (k, i) := Prod.Lex.toLex_lt_toLex.mpr hlt'
  exact lt_asymm hfirst hback

theorem Ahead.asymm (h : t.Ahead p q) : ¬ t.Ahead q p := by
  rcases h with ⟨hpq, hne⟩ | h
  · rintro (⟨hqp, -⟩ | h')
    · exact hne (hpq.eq_of_length_le hqp.length_le)
    · exact h'.not_suffix.2 hpq
  · rintro (⟨hqp, -⟩ | h')
    · exact h.not_suffix.2 hqp
    · exact h.asymm h'

theorem Ahead.ne (h : t.Ahead p q) : p ≠ q := by
  rintro rfl
  exact h.asymm h

end Tree

/-! ### The traversal of a node -/

section Traversal

variable {t u : Tree} {path : List Nat} {role : Option Role}

/-- What is walked from a node stands at a path below it, with what is found there and with the
nodes above. -/
theorem faithful_of_mem_walk (h : t.at? path = some u) {o : Occurrence}
    (ho : o ∈ walk (t.above path) path role u) :
    path <:+ o.path ∧ t.at? o.path = some o.tree ∧ o.ancestors = t.above o.path := by
  induction u using Tree.induct generalizing path role with
  | node f l s cs ih =>
    rcases mem_walk.mp ho with rfl | ⟨i, c, hc, ho⟩
    · exact ⟨List.suffix_refl path, h, rfl⟩
    · have hat : t.at? (i :: path) = some c := Tree.at?_cons_eq_some.mpr ⟨_, h, hc⟩
      rw [branch, ← Tree.above_cons h i] at ho
      obtain ⟨hsuf, hrest⟩ := ih c (List.mem_of_getElem? hc) hat ho
      exact ⟨(List.suffix_cons i path).trans hsuf, hrest⟩

/-- Everything below a node is walked. -/
theorem exists_mem_walk {v : Tree} {a : List Nat} (h : u.at? a = some v) (ancestors : List Tree)
    (path : List Nat) (role : Option Role) :
    ∃ o ∈ walk ancestors path role u, o.path = a ++ path := by
  induction u using Tree.induct generalizing a ancestors path role with
  | node f l s cs ih =>
    rcases List.eq_nil_or_concat a with rfl | ⟨a, i, rfl⟩
    · exact ⟨_, mem_walk.mpr (.inl rfl), rfl⟩
    · rw [List.concat_eq_append, Tree.at?_append] at h
      obtain ⟨c, hc, hv⟩ := Option.bind_eq_some_iff.mp h
      have hi : cs[i]? = some c := hc
      obtain ⟨o, ho, hpath⟩ := ih c (List.mem_of_getElem? hi) hv _ (i :: path) _
      exact ⟨o, mem_walk.mpr (.inr ⟨i, c, hi, ho⟩), by simp [hpath]⟩

/-- A traversal meets whatever is ahead first. -/
theorem pairwise_walk (h : t.at? path = some u) :
    (walk (t.above path) path role u).Pairwise fun o o' => t.Ahead o.path o'.path := by
  induction u using Tree.induct generalizing path role with
  | node f l s cs ih =>
    have hat {i : Nat} {c : Tree} (hc : cs[i]? = some c) : t.at? (i :: path) = some c :=
      Tree.at?_cons_eq_some.mpr ⟨_, h, hc⟩
    have hsuf {i : Nat} {c : Tree} {o : Occurrence} (hc : cs[i]? = some c)
        (ho : o ∈ (branch (.node f l s cs) (t.above path) path role c i).2) :
        i :: path <:+ o.path := by
      rw [branch, ← Tree.above_cons h i] at ho
      exact (faithful_of_mem_walk (hat hc) ho).1
    rw [walk_eq, List.pairwise_cons]
    refine ⟨fun o ho => ?_, List.pairwise_flatMap.mpr ⟨fun b hb => ?_, ?_⟩⟩
    · obtain ⟨b, hb, ho⟩ := List.mem_flatMap.mp ho
      obtain ⟨i, c, hc, rfl⟩ := mem_branches.mp hb
      have hlong := hsuf hc ho
      refine .inl ⟨(List.suffix_cons i path).trans hlong, fun heq => ?_⟩
      change path = o.path at heq
      have hlen := hlong.length_le
      rw [← heq, List.length_cons] at hlen
      omega
    · obtain ⟨i, c, hc, rfl⟩ := mem_branches.mp hb
      rw [branch, ← Tree.above_cons h i]
      exact ih c (List.mem_of_getElem? hc) (hat hc)
    · refine pairwise_branches.imp fun hb o ho o' ho' => ?_
      obtain ⟨i, j, c, c', hc, hc', rfl, rfl, hlt⟩ := hb
      obtain ⟨a, ha⟩ := hsuf hc ho
      obtain ⟨b, hb⟩ := hsuf hc' ho'
      exact .inr ⟨path, a, b, i, j, c, c', c.location, c'.location, ha.symm, hb.symm, hat hc,
        hat hc', c.liesAt_location, c'.liesAt_location, hlt⟩

/-- The traversal of a node is a block of that of the tree. -/
theorem exists_walk_infix (h : t.at? path = some u) :
    ∃ role, walk (t.above path) path role u <:+: walk [] [] none t := by
  induction path generalizing u with
  | nil =>
    obtain rfl : t = u := by simpa using h
    exact ⟨none, List.infix_refl _⟩
  | cons i path ih =>
    obtain ⟨parent, hparent, hc⟩ := Tree.at?_cons_eq_some.mp h
    obtain ⟨role, hblk⟩ := ih hparent
    rw [Tree.above_cons hparent]
    exact ⟨_, (branch_infix_walk hc).trans hblk⟩

end Traversal

/-! ### Document order -/

/-- Occurrences that are the nodes of a tree in document order. -/
structure DocumentOrder (t : Tree) (os : List Occurrence) : Prop where
  /-- Every node of the tree occurs, and nothing else does; -/
  complete : ∀ path, path ∈ os.map (·.path) ↔ (t.at? path).isSome
  /-- no node occurs twice; -/
  once : (os.map (·.path)).Nodup
  /-- a node comes with what is below it and with the chain of the nodes above it; -/
  faithful : ∀ o ∈ os, t.at? o.path = some o.tree ∧ o.ancestors = t.above o.path
  /-- a node comes before everything below it; -/
  above_first : ∀ (m n : Nat) (hm : m < os.length) (hn : n < os.length),
    os[m].path <:+ os[n].path → m ≤ n
  /-- a node and everything below it come without a gap; -/
  block : ∀ path, os.filter (fun o => path <:+ o.path) <:+: os
  /-- and of two nodes on different branches the one comes first whose branch lies first. -/
  branches : ∀ (m n : Nat) (hm : m < os.length) (hn : n < os.length),
    ¬ os[m].path <:+ os[n].path → ¬ os[n].path <:+ os[m].path →
      (m < n ↔ t.Precedes os[m].path os[n].path)

/-- A block of a list without duplicates that has all items of a sort, and only these, is what a
filter leaves. -/
theorem filter_eq_of_infix {α : Type} {xs block : List α} {p : α → Bool} (h : block <:+: xs)
    (hnodup : xs.Nodup) (hall : ∀ x ∈ block, p x = true)
    (hmem : ∀ x ∈ xs, p x = true → x ∈ block) : xs.filter p = block := by
  obtain ⟨front, back, rfl⟩ := h
  obtain ⟨hfb, -, hback⟩ := List.nodup_append.mp hnodup
  obtain ⟨-, -, hfront⟩ := List.nodup_append.mp hfb
  have hfront' : front.filter p = [] := List.filter_eq_nil_iff.mpr fun x hx hpx =>
    hfront x hx x (hmem x (by simp [hx]) hpx) rfl
  have hback' : back.filter p = [] := List.filter_eq_nil_iff.mpr fun x hx hpx =>
    hback x (List.mem_append_right front (hmem x (by simp [hx]) hpx)) x hx rfl
  rw [List.filter_append, List.filter_append, hfront', hback', List.filter_eq_self.mpr hall]
  simp

section Root

variable (t : Tree)

theorem pairwise_walk_root :
    (walk [] [] none t).Pairwise fun o o' => t.Ahead o.path o'.path :=
  pairwise_walk (Tree.at?_nil t)

theorem nodup_walk_root : ((walk [] [] none t).map (·.path)).Nodup :=
  List.pairwise_map.mpr ((pairwise_walk_root t).imp fun h => h.ne)

variable {t}

/-- Occurrences of one path are one occurrence. -/
theorem eq_of_path_eq {o o' : Occurrence} (ho : o ∈ walk [] [] none t)
    (ho' : o' ∈ walk [] [] none t) (h : o.path = o'.path) : o = o' :=
  List.inj_on_of_nodup_map (nodup_walk_root t) ho ho' h

theorem faithful_of_mem_walk_root {o : Occurrence} (ho : o ∈ walk [] [] none t) :
    t.at? o.path = some o.tree ∧ o.ancestors = t.above o.path :=
  (faithful_of_mem_walk (Tree.at?_nil t) ho).2

theorem mem_paths_walk_root {path : List Nat} :
    path ∈ (walk [] [] none t).map (·.path) ↔ (t.at? path).isSome := by
  rw [List.mem_map]
  constructor
  · rintro ⟨o, ho, rfl⟩
    simp [(faithful_of_mem_walk_root ho).1]
  · intro h
    obtain ⟨v, hv⟩ := Option.isSome_iff_exists.mp h
    obtain ⟨o, ho, hpath⟩ := exists_mem_walk hv [] [] none
    exact ⟨o, ho, by simpa using hpath⟩

/-- Every node of the tree is met. -/
theorem exists_occurrence {v : Tree} {path : List Nat} (h : t.at? path = some v) :
    ∃ o ∈ walk [] [] none t, o.path = path :=
  List.mem_map.mp (mem_paths_walk_root.mpr (by simp [h]))

/-- What is met first is ahead. -/
theorem ahead_of_lt {m n : Nat} (hn : n < (walk [] [] none t).length) (hmn : m < n) :
    t.Ahead ((walk [] [] none t)[m]).path ((walk [] [] none t)[n]).path :=
  List.pairwise_iff_getElem.mp (pairwise_walk_root t) m n (hmn.trans hn) hn hmn

/-- What a traversal meets at a node and below it is the traversal of that node. -/
theorem exists_filter_walk_eq {u : Tree} {path : List Nat} (h : t.at? path = some u) :
    ∃ role, walk (t.above path) path role u <:+: walk [] [] none t ∧
      (walk [] [] none t).filter (fun o => path <:+ o.path) = walk (t.above path) path role u := by
  obtain ⟨role, hblk⟩ := exists_walk_infix h
  refine ⟨role, hblk, filter_eq_of_infix hblk (nodup_walk_root t).of_map (fun o ho => ?_) ?_⟩
  · exact decide_eq_true (faithful_of_mem_walk h ho).1
  · intro o ho hsuf
    obtain ⟨a, ha⟩ := of_decide_eq_true hsuf
    have hat := (faithful_of_mem_walk_root ho).1
    rw [← ha, Tree.at?_append, h] at hat
    obtain ⟨o', ho', hpath⟩ := exists_mem_walk hat (t.above path) path role
    rwa [eq_of_path_eq ho (hblk.subset ho') (ha.symm.trans hpath.symm)]

theorem filter_walk_infix (path : List Nat) :
    (walk [] [] none t).filter (fun o => path <:+ o.path) <:+: walk [] [] none t := by
  cases h : t.at? path with
  | none =>
    -- No node lies below a path that leads nowhere.
    have hnone : (walk [] [] none t).filter (fun o => path <:+ o.path) = [] := by
      refine List.filter_eq_nil_iff.mpr fun o ho hsuf => ?_
      obtain ⟨u, hu⟩ :=
        Tree.exists_at?_of_suffix (faithful_of_mem_walk_root ho).1 (of_decide_eq_true hsuf)
      simp [h] at hu
    rw [hnone]
    exact List.nil_infix
  | some u =>
    obtain ⟨role, hblk, hblock⟩ := exists_filter_walk_eq h
    rw [hblock]
    exact hblk

/-- A traversal from the root is in document order. -/
theorem documentOrder_walk (t : Tree) : DocumentOrder t (walk [] [] none t) where
  complete path := mem_paths_walk_root
  once := nodup_walk_root t
  faithful o ho := faithful_of_mem_walk_root ho
  above_first m n hm hn hsuf := by
    by_contra hlt
    rcases ahead_of_lt hm (not_le.mp hlt) with ⟨hsuf', hne⟩ | h
    · exact hne (hsuf'.eq_of_length_le hsuf.length_le)
    · exact h.not_suffix.2 hsuf
  block := filter_walk_infix
  branches m n hm hn hmn hnm := by
    constructor
    · intro hlt
      exact (ahead_of_lt hn hlt).resolve_left fun h => hmn h.1
    · intro h
      rcases lt_trichotomy m n with hlt | rfl | hlt
      · exact hlt
      · exact absurd (List.suffix_refl _) hmn
      · exact absurd h ((ahead_of_lt hm hlt).resolve_left fun h => hnm h.1).asymm

end Root

end Grader.Source
