import Mathlib
import Grader.Source.Tree

/-!
Nodes by their paths. A path lists the indices that lead from the root to a node, the last step
first, so that the paths below a node are those that end with its own. Places are ordered by line
and then by column, and the place of a node is its own start, or else the least start below it.
-/

namespace Grader.Source

namespace Location

/-- A place as a pair that is compared by line first. -/
def key (l : Location) : ℕ ×ₗ ℕ := toLex (l.line, l.column)

theorem key_injective : Function.Injective key := by
  intro a b h
  cases a
  cases b
  simpa [key] using h

instance : LinearOrder Location := LinearOrder.lift' key key_injective

theorem le_iff {a b : Location} : a ≤ b ↔ a.line < b.line ∨ a.line = b.line ∧ a.column ≤ b.column :=
  Prod.Lex.toLex_le_toLex

@[simp] theorem le_eq_true {a b : Location} : a.le b = true ↔ a ≤ b := by
  simp [le, le_iff]

theorem earlier_eq_min (a b : Location) : earlier a b = min a b := by
  simp [earlier, min_def]

end Location

namespace Tree

/-- A property of all trees, if a node has it once its children do. -/
theorem induct {P : Tree → Prop}
    (node : ∀ f l s cs, (∀ c ∈ cs, P c) → P (.node f l s cs)) : ∀ t, P t
  | .node f l s cs => node f l s cs fun c _ => induct node c

/-! ### Paths -/

/-- The node at a path. -/
def at? (t : Tree) : List Nat → Option Tree
  | [] => some t
  | i :: path => (t.at? path).bind (·.children[i]?)

/-- The nodes above a path, the parent first and the root last. -/
def above (t : Tree) : List Nat → List Tree
  | [] => []
  | _ :: path => (t.at? path).toList ++ t.above path

@[simp] theorem at?_nil (t : Tree) : t.at? [] = some t := rfl

theorem at?_cons_eq_some {t v : Tree} {i : Nat} {path : List Nat} :
    t.at? (i :: path) = some v ↔ ∃ u, t.at? path = some u ∧ u.children[i]? = some v :=
  Option.bind_eq_some_iff

theorem above_cons {t u : Tree} {path : List Nat} (h : t.at? path = some u) (i : Nat) :
    t.above (i :: path) = u :: t.above path := by
  rw [above, h]
  rfl

theorem at?_append (t : Tree) (a b : List Nat) : t.at? (a ++ b) = (t.at? b).bind (·.at? a) := by
  induction a with
  | nil => cases h : t.at? b <;> simp [h]
  | cons i a ih => simp only [List.cons_append, at?, ih, Option.bind_assoc]

/-- The first step of a path leads to a child, and the others lead on from there. -/
theorem at?_concat_eq_some {t v : Tree} {i : Nat} {path : List Nat} :
    t.at? (path ++ [i]) = some v ↔ ∃ c, t.children[i]? = some c ∧ c.at? path = some v := by
  rw [at?_append, Option.bind_eq_some_iff]
  rfl

theorem above_concat {t c : Tree} {i : Nat} (h : t.children[i]? = some c) (path : List Nat) :
    t.above (path ++ [i]) = c.above path ++ [t] := by
  induction path with
  | nil => rfl
  | cons j path ih =>
    have hat : t.at? (path ++ [i]) = c.at? path := by
      rw [at?_append, show t.at? [i] = some c from h]
      rfl
    rw [List.cons_append, above, above, hat, ih, List.append_assoc]

/-- What the children of a node inherit from it, all nodes below it do. -/
theorem inherit_of_at? {P : Tree → Prop} (hP : ∀ t, P t → ∀ c ∈ t.children, P c) {t v : Tree}
    {path : List Nat} (ht : P t) (h : t.at? path = some v) : P v := by
  induction path generalizing v with
  | nil =>
    obtain rfl : t = v := by simpa using h
    exact ht
  | cons i path ih =>
    obtain ⟨parent, hparent, hv⟩ := at?_cons_eq_some.mp h
    exact hP parent (ih hparent) v (List.mem_of_getElem? hv)

/-- A path above a node is the path of a node. -/
theorem exists_at?_of_suffix {t v : Tree} {a b : List Nat} (h : t.at? b = some v) (hab : a <:+ b) :
    ∃ u, t.at? a = some u := by
  obtain ⟨c, rfl⟩ := hab
  rw [at?_append] at h
  obtain ⟨u, hu, -⟩ := Option.bind_eq_some_iff.mp h
  exact ⟨u, hu⟩

/-! ### All nodes of a tree -/

mutual

/-- Whether all nodes of a tree have a property. -/
def all (p : Tree → Bool) : Tree → Bool
  | node f l s cs => p (node f l s cs) && allAmong p cs

def allAmong (p : Tree → Bool) : List Tree → Bool
  | [] => true
  | t :: ts => t.all p && allAmong p ts

end

section All

variable {p : Tree → Bool} {t v : Tree}

theorem allAmong_iff {ts : List Tree} : allAmong p ts = true ↔ ∀ t ∈ ts, t.all p = true := by
  induction ts with
  | nil => simp [allAmong]
  | cons t ts ih => simp [allAmong, ih]

theorem all_iff : t.all p = true ↔ p t = true ∧ ∀ c ∈ t.children, c.all p = true := by
  obtain ⟨f, l, s, cs⟩ := t
  rw [all, Bool.and_eq_true, allAmong_iff]
  rfl

theorem all_of_child? {f : Field} (ht : t.all p = true) (h : t.child? f = some v) :
    v.all p = true :=
  (all_iff.mp ht).2 v (List.mem_of_find?_eq_some h)

theorem all_of_at? {path : List Nat} (ht : t.all p = true) (h : t.at? path = some v) :
    v.all p = true :=
  inherit_of_at? (P := fun t => t.all p = true) (fun _ h => (all_iff.mp h).2) ht h

end All

/-! ### The place of a node -/

/-- The starts of the nodes of a tree. -/
def starts (t : Tree) : Set Location := {l | ∃ path u, t.at? path = some u ∧ u.start = some l}

/-- The place that a node has: its own start if there is one, or else the least start in its tree,
or else the place of nodes that hold nothing with a place. -/
def LiesAt (t : Tree) (l : Location) : Prop :=
  t.start = some l ∨
    t.start = none ∧ (IsLeast t.starts l ∨ t.starts = ∅ ∧ l = Location.nowhere)

/-- The starts in a list of trees. -/
def startsAmong (ts : List Tree) : Set Location := {l | ∃ t ∈ ts, l ∈ t.starts}

theorem mem_starts {t : Tree} {l : Location} :
    l ∈ t.starts ↔ t.start = some l ∨ l ∈ startsAmong t.children := by
  constructor
  · rintro ⟨path, u, hu, hl⟩
    rcases List.eq_nil_or_concat path with rfl | ⟨path, i, rfl⟩
    · obtain rfl : t = u := by simpa using hu
      exact .inl hl
    · rw [List.concat_eq_append, at?_concat_eq_some] at hu
      obtain ⟨c, hc, hu⟩ := hu
      exact .inr ⟨c, List.mem_of_getElem? hc, path, u, hu, hl⟩
  · rintro (hl | ⟨c, hc, path, u, hu, hl⟩)
    · exact ⟨[], t, rfl, hl⟩
    · obtain ⟨i, hi⟩ := List.getElem?_of_mem hc
      exact ⟨path ++ [i], u, at?_concat_eq_some.mpr ⟨c, hi, hu⟩, hl⟩

/-- What an optional place is to a set of places: the least one, or absent as the set is empty. -/
def IsEarliest (s : Set Location) : Option Location → Prop
  | some l => IsLeast s l
  | none => s = ∅

theorem IsEarliest.merge {s s' : Set Location} {a b : Option Location} (ha : IsEarliest s a)
    (hb : IsEarliest s' b) : IsEarliest (s ∪ s') (Option.merge Location.earlier a b) := by
  cases a with
  | none =>
    obtain rfl : s = ∅ := ha
    cases b <;> simpa using hb
  | some l =>
    cases b with
    | none =>
      obtain rfl : s' = ∅ := hb
      simpa using ha
    | some l' =>
      change IsLeast (s ∪ s') (Location.earlier l l')
      rw [Location.earlier_eq_min]
      exact IsLeast.union ha hb

theorem isEarliest_start (o : Option Location) : IsEarliest {l | o = some l} o := by
  cases o with
  | none => simp [IsEarliest]
  | some l => simp [IsEarliest]

/-- The earliest place among trees, once it is that of each of them. -/
theorem isEarliest_earliestAmong {ts : List Tree}
    (h : ∀ t ∈ ts, IsEarliest t.starts t.earliest?) :
    IsEarliest (startsAmong ts) (earliestAmong? ts) := by
  induction ts with
  | nil => simp [IsEarliest, startsAmong, earliestAmong?]
  | cons t ts ih =>
    obtain ⟨ht, hts⟩ := List.forall_mem_cons.mp h
    have hunion : startsAmong (t :: ts) = t.starts ∪ startsAmong ts := by
      ext l
      simp [startsAmong]
    rw [hunion, earliestAmong?]
    exact ht.merge (ih hts)

theorem isEarliest_earliest (t : Tree) : IsEarliest t.starts t.earliest? := by
  induction t using induct with
  | node f l s cs ih =>
    have hunion : (Tree.node f l s cs).starts = {p | s = some p} ∪ startsAmong cs := by
      ext p
      exact mem_starts
    rw [hunion, earliest?]
    exact (isEarliest_start s).merge (isEarliest_earliestAmong ih)

theorem liesAt_location (t : Tree) : t.LiesAt t.location := by
  obtain ⟨f, l, s, cs⟩ := t
  cases s with
  | some p => exact .inl rfl
  | none =>
    -- Without a start of its own, what is in the tree is what is among the children.
    have hmin := isEarliest_earliest (.node f l none cs)
    rw [earliest?, Option.merge_none_left] at hmin
    refine .inr ⟨rfl, ?_⟩
    rw [location]
    cases h : earliestAmong? cs with
    | some p => exact .inl (by simpa [h, IsEarliest] using hmin)
    | none => exact .inr ⟨by simpa [h, IsEarliest] using hmin, rfl⟩

/-- A node has one place. -/
theorem LiesAt.unique {t : Tree} {a b : Location} (ha : t.LiesAt a) (hb : t.LiesAt b) : a = b := by
  rcases ha with ha | ⟨hs, ha⟩
  · rcases hb with hb | ⟨hs, -⟩
    · exact Option.some.inj (ha.symm.trans hb)
    · simp [hs] at ha
  · rcases hb with hb | ⟨-, hb⟩
    · simp [hs] at hb
    · rcases ha with ha | ⟨hempty, rfl⟩ <;> rcases hb with hb | ⟨hempty', rfl⟩
      · exact ha.unique hb
      · simp [hempty', IsLeast] at ha
      · simp [hempty, IsLeast] at hb
      · rfl

end Tree

end Grader.Source
