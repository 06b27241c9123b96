import Grader.Decimal.Limit
import Grader.Proofs.Traversal

/-! What handlers make of a failure: the description that they go on with, or the failure that
leaves them, which is one that they do not take or the one that describing it raises. -/

namespace Grader

namespace Class

variable {c : Class} {name base : String}

theorem isA_iff : c.isA name = true ↔ name ∈ c.name :: c.bases := by
  rw [isA, Bool.or_eq_true, beq_iff_eq, List.contains_iff_mem, List.mem_cons, eq_comm]

/-- A class that specialises another one specialises all that the other one does. -/
theorem isA_of_isA {family : List String × List String} (hfamily : family ∈ families)
    (hname : name ∈ family.2) (hbase : base ∈ family.1) (h : c.isA name = true) :
    c.isA base = true :=
  isA_iff.mpr (List.mem_cons_of_mem _
    (c.closed family hfamily name (isA_iff.mp h) hname base hbase))

end Class

namespace Failure

variable {f g : Failure} {d : String}

theorem described_eq_ok_iff :
    f.described = .ok d ↔ ∃ s, f.message = .ok s ∧ d = s!"{f.kind}: {s}" :=
  Traversal.map_eq_ok_iff

theorem described_eq_error_iff : f.described = .error g ↔ f.message = .error g :=
  Traversal.map_eq_error_iff

theorem text_eq {s : String} (h : f.message = .ok s) : f.text = s := by
  unfold text
  rw [h]
  rfl

/-- A failure that a handler does not take leaves it as it is. -/
theorem describedIf_eq_ok_iff {takes : Reach → Bool} :
    f.describedIf takes = .ok d ↔ takes f.reach = true ∧ f.described = .ok d := by
  unfold describedIf
  cases takes f.reach <;> simp

theorem describedIf_eq_error_iff {takes : Reach → Bool} :
    f.describedIf takes = .error g ↔
      takes f.reach = false ∧ g = f ∨ takes f.reach = true ∧ f.message = .error g := by
  unfold describedIf
  cases takes f.reach
  · simp [eq_comm]
  · simp [described_eq_error_iff]

theorem handled_eq_ok_iff :
    f.handled = .ok d ↔ f.reach = .ordinary ∧ f.described = .ok d := by
  simp [handled, describedIf_eq_ok_iff]

theorem handled_eq_error_iff : f.handled = .error g ↔
    f.reach ≠ .ordinary ∧ g = f ∨ f.reach = .ordinary ∧ f.message = .error g := by
  simp [handled, describedIf_eq_error_iff]

theorem contained_eq_ok_iff :
    f.contained = .ok d ↔ f.reach ≠ .fatal ∧ f.described = .ok d := by
  simp [contained, describedIf_eq_ok_iff]

theorem contained_eq_error_iff : f.contained = .error g ↔
    f.reach = .fatal ∧ g = f ∨ f.reach ≠ .fatal ∧ f.message = .error g := by
  simp [contained, describedIf_eq_error_iff]

theorem contained_of_message {s : String} (hreach : f.reach ≠ .fatal) (h : f.message = .ok s) :
    f.contained = .ok s!"{f.kind}: {s}" :=
  contained_eq_ok_iff.mpr ⟨hreach, described_eq_ok_iff.mpr ⟨s, h, rfl⟩⟩

/-- A failure is ordinary if its class specialises one that is known to be of ordinary failures. -/
theorem ordinary_of_isA {name : String} (h : f.isA name = true)
    (hname : ∃ family ∈ Class.families, name ∈ family.2 ∧ "Exception" ∈ family.1) :
    f.reach = .ordinary := by
  obtain ⟨family, hfamily, hmem, hgeneral⟩ := hname
  exact if_pos (Class.isA_of_isA hfamily hmem hgeneral h)

theorem stays_of_fatal (h : f.reach = .fatal) : f.isA "SystemExit" = false := by
  unfold reach at h
  split_ifs at h with hordinary hexit
  exact Bool.not_eq_true _ ▸ hexit

/-- Only an exit brings a status of its own. -/
theorem status_of_stays (h : f.isA "SystemExit" = false) : f.status = 1 := by
  unfold status
  rw [h]
  rfl

/-- A failure that no handler stops and that can be described: an ordinary one with a text, which is
no exit. All failures of this library are of this kind. -/
structure Plain (f : Failure) : Prop where
  ordinary : f.reach = .ordinary
  stays : f.isA "SystemExit" = false
  worded : ∃ s, f.message = .ok s

theorem Plain.handled (h : f.Plain) : f.handled = .ok s!"{f.kind}: {f.text}" := by
  obtain ⟨s, hs⟩ := h.worded
  refine handled_eq_ok_iff.mpr ⟨h.ordinary, described_eq_ok_iff.mpr ⟨s, hs, ?_⟩⟩
  rw [text_eq hs]

/-- An ordinary failure whose text is no text, but a number, which forming it refuses. -/
def unworded : Failure :=
  ⟨"ValueError", .raises "TypeError" "__str__ returned non-string (type int)" [], []⟩

/-- A failure with a text, the class of which is known by its name. -/
structure IsOf (f : Failure) (name : String) : Prop where
  cls : f.cls = name
  worded : ∃ s, f.message = .ok s

theorem IsOf.mk' (name s : String) (details : List Detail) :
    IsOf ⟨name, s, details⟩ name := ⟨rfl, s, rfl⟩

/-- None of the classes that are known by their names specialises that of exits. -/
theorem not_mem_families : ∀ family ∈ Class.families, "SystemExit" ∉ family.1 := by decide

section Named

variable {name : String}

theorem IsOf.kind (h : f.IsOf name) : f.kind = name := congrArg Class.name h.cls

theorem IsOf.isA (h : f.IsOf name) (kind : String) :
    f.isA kind = (Class.ofName name).isA kind := congrArg (Class.isA · kind) h.cls

/-- Only exits are exits among the classes that are known by their names. -/
theorem eq_exit_of_isA (h : (Class.ofName name).isA "SystemExit" = true) :
    name = "SystemExit" := by
  rw [Class.isA_iff] at h
  rcases List.mem_cons.mp h with hname | hbase
  · exact hname.symm
  · change "SystemExit" ∈ Class.basesOf name at hbase
    unfold Class.basesOf at hbase
    cases hfamily : Class.families.find? (·.2.contains name) with
    | none =>
      rw [hfamily] at hbase
      simp at hbase
    | some family =>
      rw [hfamily] at hbase
      exact absurd hbase (not_mem_families family (List.mem_of_find?_eq_some hfamily))

theorem IsOf.plain (h : f.IsOf name) (hname : (Class.ofName name).isA "Exception" = true) :
    f.Plain where
  ordinary := by
    unfold reach
    rw [h.isA, hname, if_pos rfl]
  stays := by
    rw [h.isA]
    by_contra hexit
    rw [Bool.not_eq_false] at hexit
    rw [eq_exit_of_isA hexit] at hname
    cases hname
  worded := h.worded

end Named

/-- A failure with a text is plain if its class, which is known by its name, is ordinary. -/
theorem Plain.of_reach {name s : String} {details : List Detail}
    (h : (⟨name, s, details⟩ : Failure).reach = .ordinary) : Plain ⟨name, s, details⟩ := by
  refine (IsOf.mk' name s details).plain ?_
  unfold reach at h
  split at h
  · assumption
  · split at h <;> cases h

end Failure

namespace Decimal

theorem isWritable_zero : isWritable 0 = true := by decide +kernel

/-- A number between zero and another one has no more digits. -/
theorem isWritable_of_le {m n : Int} (hm : 0 ≤ m) (hmn : m ≤ n) (hn : isWritable n = true) :
    isWritable m = true := by
  unfold isWritable at *
  rw [decide_eq_true_eq] at *
  omega

theorem spelled_eq_ok_iff {n : Int} {s : String} :
    spelled n = .ok s ↔ isWritable n = true ∧ s = toString n := by
  unfold spelled
  cases isWritable n <;> simp [eq_comm]

theorem spelled_eq_error_iff {n : Int} {f : Failure} :
    spelled n = .error f ↔ isWritable n = false ∧ f = tooLong := by
  unfold spelled
  cases isWritable n <;> simp [eq_comm]

end Decimal

end Grader
