import Mathlib
import Grader.Source.Node
import Grader.Proofs.Source.Tree

/-!
What assignments bind. The targets of an assignment are names, and tuples, lists and stars around
targets to any depth. An assignment lists the names of its targets that stand in one tuple or list
at most, with a star at most inside of it, and it leaves out whatever is nested deeper.
-/

namespace Grader.Source

/-- What may stand around a target: a tuple or a list, or a star. -/
inductive Layer where
  | sequence | star
  deriving Repr, DecidableEq

/-- A name that is bound, with what stands around it in the target, the nearest layer first. -/
structure Binding where
  around : List Layer
  name : String
  deriving Repr, DecidableEq

namespace Tree

mutual

/-- The names that a target binds at any depth, in the order of the text. A chain of attributes on a
name counts as a name, and whatever else is assigned to has none. -/
def bindingsIn (around : List Layer) : Tree → List Binding
  | .node f l s cs =>
    match l with
    | .tuple | .list => bindingsAmong (.sequence :: around) cs
    | .starred => bindingsStarred (.star :: around) cs
    | _ => ((dottedName (.node f l s cs)).filter (· != "")).toList.map (Binding.mk around)

/-- The names that the elements of a tuple or of a list bind. -/
def bindingsAmong (around : List Layer) : List Tree → List Binding
  | [] => []
  | t :: ts =>
    if t.field = .elts then bindingsIn around t ++ bindingsAmong around ts
    else bindingsAmong around ts

/-- The names that are bound behind a star. -/
def bindingsStarred (around : List Layer) : List Tree → List Binding
  | [] => []
  | t :: ts => if t.field = .value then bindingsIn around t else bindingsStarred around ts

end

/-- The names that a statement binds by assignment, in the order of the text. -/
def bindings (t : Tree) : List Binding :=
  match t.label with
  | .assign => (t.childrenAt .targets).flatMap (bindingsIn [])
  | .annAssign => (t.childrenAt .target).flatMap (bindingsIn [])
  | _ => []

theorem bindingsAmong_eq (around : List Layer) (cs : List Tree) : bindingsAmong around cs =
    (cs.filter (·.field == .elts)).flatMap (bindingsIn around) := by
  induction cs with
  | nil => rfl
  | cons c cs ih =>
    rw [bindingsAmong, ih, List.filter_cons]
    by_cases hc : c.field = .elts <;> simp [hc]

theorem bindingsStarred_eq (around : List Layer) (cs : List Tree) : bindingsStarred around cs =
    (cs.find? (·.field == .value)).elim [] (bindingsIn around) := by
  induction cs with
  | nil => rfl
  | cons c cs ih =>
    rw [bindingsStarred, List.find?_cons]
    by_cases hc : c.field = .value
    · simp [hc]
    · rw [if_neg hc, beq_eq_false_iff_ne.mpr hc]
      exact ih

end Tree

/-- Displays that bind their elements. -/
def Label.isSequence : Label → Bool
  | tuple | list => true
  | _ => false

section Equations

variable {t : Tree} (around : List Layer)

theorem bindingsIn_sequence (h : t.label.isSequence = true) :
    t.bindingsIn around = (t.childrenAt .elts).flatMap (Tree.bindingsIn (.sequence :: around)) := by
  obtain ⟨f, l, s, cs⟩ := t
  cases l
  case tuple | list => exact Tree.bindingsAmong_eq _ _
  all_goals cases h

theorem bindingsIn_starred (h : t.label = .starred) :
    t.bindingsIn around = (t.child? .value).elim [] (Tree.bindingsIn (.star :: around)) := by
  obtain ⟨f, l, s, cs⟩ := t
  obtain rfl : l = .starred := h
  exact Tree.bindingsStarred_eq _ _

theorem bindingsIn_name (h : t.label.isSequence = false) (h' : t.label ≠ .starred) :
    t.bindingsIn around =
      ((dottedName t).filter (· != "")).toList.map (Binding.mk around) := by
  obtain ⟨f, l, s, cs⟩ := t
  cases l
  case tuple | list => cases h
  case starred => exact absurd rfl h'
  all_goals rfl

theorem dottedName_sequence (h : t.label.isSequence = true) : dottedName t = none := by
  obtain ⟨f, l, s, cs⟩ := t
  cases l
  case tuple | list => rfl
  all_goals cases h

theorem dottedName_starred (h : t.label = .starred) : dottedName t = none := by
  obtain ⟨f, l, s, cs⟩ := t
  obtain rfl : l = .starred := h
  rfl

end Equations

/-! ### Names that are listed -/

/-- Whether these layers are one tuple or list at most, with one star at most inside of it. -/
def Layer.areShallow : List Layer → Bool
  | [] | [.star] | [.sequence] | [.star, .sequence] => true
  | _ => false

/-- Whether a name stands in one tuple or list at most, with one star at most inside of it. -/
def Binding.isShallow (b : Binding) : Bool := Layer.areShallow b.around

section Depth

variable {around : List Layer} {t : Tree} {b : Binding}

theorem Layer.areShallow_of_cons {l : Layer} (h : areShallow (l :: around) = true) :
    areShallow around = true := by
  unfold areShallow at h
  split at h <;> simp_all [areShallow]

/-- Nothing around a target makes the names in it shallower. -/
theorem areShallow_of_mem_bindingsIn (h : b ∈ t.bindingsIn around) (hb : b.isShallow = true) :
    Layer.areShallow around = true := by
  induction t using Tree.induct generalizing around with
  | node f l s cs ih =>
    by_cases hseq : (Tree.node f l s cs).label.isSequence = true
    · rw [bindingsIn_sequence around hseq, List.mem_flatMap] at h
      obtain ⟨c, hc, h⟩ := h
      exact Layer.areShallow_of_cons (ih c (List.mem_filter.mp hc).1 h)
    · by_cases hstar : (Tree.node f l s cs).label = .starred
      · rw [bindingsIn_starred around hstar] at h
        cases hc : (Tree.node f l s cs).child? .value with
        | none => simp [hc] at h
        | some c =>
          rw [hc] at h
          exact Layer.areShallow_of_cons (ih c (List.mem_of_find?_eq_some hc) h)
      · rw [bindingsIn_name around (by simpa using hseq) hstar] at h
        obtain ⟨name, -, rfl⟩ := List.mem_map.mp h
        exact hb

/-- The names in a target that stand in few layers, those around the target included. -/
def shallowNames (around : List Layer) (t : Tree) : List String :=
  ((t.bindingsIn around).filter Binding.isShallow).map Binding.name

theorem shallowNames_of_deep (h : Layer.areShallow around = false) :
    shallowNames around t = [] := by
  rw [shallowNames, List.map_eq_nil_iff, List.filter_eq_nil_iff]
  intro b hmem hb
  simp [areShallow_of_mem_bindingsIn hmem hb] at h

theorem shallowNames_sequence (h : t.label.isSequence = true) : shallowNames around t =
    (t.childrenAt .elts).flatMap (shallowNames (.sequence :: around)) := by
  rw [shallowNames, bindingsIn_sequence around h, List.filter_flatMap, List.map_flatMap]
  rfl

theorem shallowNames_starred (h : t.label = .starred) : shallowNames around t =
    (t.child? .value).elim [] (shallowNames (.star :: around)) := by
  rw [shallowNames, bindingsIn_starred around h]
  cases t.child? .value <;> rfl

theorem shallowNames_name (h : t.label.isSequence = false) (h' : t.label ≠ .starred)
    (haround : Layer.areShallow around = true) :
    shallowNames around t = ((dottedName t).filter (· != "")).toList := by
  rw [shallowNames, bindingsIn_name around h h', List.filter_eq_self.mpr, List.map_map]
  · exact List.map_id _
  · intro b hb
    obtain ⟨name, -, rfl⟩ := List.mem_map.mp hb
    exact haround

/-- Where neither a sequence nor a star may follow, a name is all that is left. -/
theorem shallowNames_last (haround : Layer.areShallow around = true)
    (hseq : Layer.areShallow (.sequence :: around) = false)
    (hstar : Layer.areShallow (.star :: around) = false) :
    shallowNames around t = ((dottedName t).filter (· != "")).toList := by
  by_cases h : t.label.isSequence = true
  · rw [shallowNames_sequence h, dottedName_sequence h, List.flatMap_eq_nil_iff.mpr]
    · rfl
    · exact fun c _ => shallowNames_of_deep hseq
  · by_cases h' : t.label = .starred
    · rw [shallowNames_starred h', dottedName_starred h']
      cases t.child? .value with
      | none => rfl
      | some c => exact shallowNames_of_deep hstar
    · exact shallowNames_name (by simpa using h) h' haround

/-- Where no sequence may follow, a star may stand in front of the name. -/
theorem shallowNames_element (h : around = [.sequence] ∨ around = [] ∧ t.label.isSequence = false) :
    shallowNames around t = (targetName? t).toList := by
  have haround : Layer.areShallow around = true := by
    rcases h with rfl | ⟨rfl, -⟩ <;> rfl
  by_cases hstar : t.label = .starred
  · rw [shallowNames_starred hstar]
    simp only [targetName?, hstar]
    cases t.child? .value with
    | none => rw [Option.getD_none, dottedName_starred hstar]; rfl
    | some c => rcases h with rfl | ⟨rfl, -⟩ <;> exact shallowNames_last rfl rfl rfl
  · have hname : targetName? t = (dottedName t).filter (· != "") := by
      unfold targetName?
      split
      case h_1 hl => exact absurd hl hstar
      case h_2 => rfl
    rw [hname]
    by_cases hseq : t.label.isSequence = true
    · obtain rfl := (h.resolve_right fun h => by simp [hseq] at h)
      rw [shallowNames_sequence hseq, dottedName_sequence hseq, List.flatMap_eq_nil_iff.mpr]
      · rfl
      · exact fun c _ => shallowNames_of_deep rfl
    · exact shallowNames_name (by simpa using hseq) hstar haround

theorem targetElements_eq (t : Tree) :
    targetElements t = if t.label.isSequence then t.childrenAt .elts else [t] := by
  obtain ⟨f, l, s, cs⟩ := t
  cases l <;> rfl

/-- What is listed of a target are the names in few layers. -/
theorem filterMap_targetElements (t : Tree) :
    (targetElements t).filterMap targetName? = shallowNames [] t := by
  rw [targetElements_eq, List.filterMap_eq_flatMap_toList]
  by_cases h : t.label.isSequence = true
  · rw [if_pos h, shallowNames_sequence h]
    exact List.flatMap_congr fun c _ => (shallowNames_element (.inl rfl)).symm
  · rw [if_neg h, List.flatMap_singleton]
    exact (shallowNames_element (.inr ⟨rfl, by simpa using h⟩)).symm

end Depth

/-! ### Statements -/

section Statement

variable {t : Tree}

/-- An assignment lists the names in few layers of all its targets. -/
theorem assignedNames_eq (t : Tree) :
    assignedNames t = (t.bindings.filter Binding.isShallow).map Binding.name := by
  have htargets (ts : List Tree) : (ts.flatMap targetElements).filterMap targetName? =
      ((ts.flatMap (Tree.bindingsIn [])).filter Binding.isShallow).map Binding.name := by
    rw [List.filterMap_flatMap, List.filter_flatMap, List.map_flatMap]
    exact List.flatMap_congr fun t _ => filterMap_targetElements t
  obtain ⟨f, l, s, cs⟩ := t
  cases l
  case assign | annAssign => exact htargets _
  all_goals rfl

/-- It lists all that it binds exactly if nothing is nested deeper. -/
theorem assignedNames_eq_iff :
    assignedNames t = t.bindings.map Binding.name ↔ ∀ b ∈ t.bindings, b.isShallow = true := by
  rw [assignedNames_eq, ← List.filter_eq_self]
  constructor
  · intro h
    have hlen := congrArg List.length h
    rw [List.length_map, List.length_map] at hlen
    exact List.filter_sublist.eq_of_length hlen
  · intro h
    rw [h]

end Statement

end Grader.Source
