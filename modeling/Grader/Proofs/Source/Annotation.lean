import Mathlib
import Grader.Proofs.Source.Walk
import Grader.Proofs.Source.Scope
import Grader.Proofs.Source.Units

/-!
Annotations. The places of a tree that hold annotations, each with what it annotates, are told by
the tree alone. The role with which a traversal meets a node is that of the outermost annotation
around the node, so that a traversal that starts in the middle knows the annotations below its start
only. Type references are the names and attributes in annotations.
-/

namespace Grader.Source

/-- Names and attributes, the steps of dotted names. -/
def Label.isReference : Label → Bool
  | name _ | member _ => true
  | _ => false

theorem Label.isReference_iff {l : Label} :
    l.isReference = true ↔ (∃ id, l = .name id) ∨ ∃ attr, l = .member attr := by
  cases l <;> simp [isReference]

namespace Tree

/-- The node at a path is an annotation, and this is what it annotates. -/
inductive Annotates (t : Tree) : List Nat → Role → Prop
  /-- Behind the arrow of a function; -/
  | returned {i : Nat} {p : List Nat} {f c : Tree} : t.at? p = some f →
      f.label.isFunction = true → t.at? (i :: p) = some c → c.field = .returns →
        Annotates t (i :: p) .returned
  /-- behind the colon of a parameter; -/
  | parameter {i : Nat} {p : List Nat} {a c : Tree} {name : String} : t.at? p = some a →
      a.label = .arg name → t.at? (i :: p) = some c → c.field = .typeHint →
        Annotates t (i :: p) .parameter
  /-- behind the colon of an assignment in the scope of a function, -/
  | localVariable {i : Nat} {p s : List Nat} {a c scope : Tree} : t.at? p = some a →
      a.label = .annAssign → t.at? (i :: p) = some c → c.field = .typeHint →
      t.NearestScope p s → t.at? s = some scope → scope.label.isFunction = true →
        Annotates t (i :: p) .localVariable
  /-- or of an assignment in no such scope. -/
  | field {i : Nat} {p : List Nat} {a c : Tree} : t.at? p = some a →
      a.label = .annAssign → t.at? (i :: p) = some c → c.field = .typeHint →
      (∀ s scope, t.NearestScope p s → t.at? s = some scope → scope.label.isFunction = false) →
        Annotates t (i :: p) .field

/-- The node at `p` lies in annotations below the node at `q`, and the outermost of them has this
role. -/
def AnnotatedBelow (t : Tree) (q p : List Nat) (r : Role) : Prop :=
  ∃ s, IsAbove q s ∧ s <:+ p ∧ t.Annotates s r ∧
    ∀ s' r', IsAbove q s' → s' <:+ p → t.Annotates s' r' → s <:+ s'

/-- The node at `p` lies in annotations, and the outermost of them has this role. -/
def Annotated (t : Tree) (p : List Nat) (r : Role) : Prop :=
  ∃ s, s <:+ p ∧ t.Annotates s r ∧ ∀ s' r', s' <:+ p → t.Annotates s' r' → s <:+ s'

variable {t : Tree} {p q s : List Nat} {r r' : Role} {i : Nat}

theorem Annotates.isAbove_nil (h : t.Annotates s r) : IsAbove [] s := by
  refine ⟨List.nil_suffix, ?_⟩
  rintro rfl
  cases h

theorem annotatedBelow_nil : t.AnnotatedBelow [] p r ↔ t.Annotated p r := by
  constructor
  · rintro ⟨s, -, hsp, hs, hmin⟩
    exact ⟨s, hsp, hs, fun s' r' hsuf hs' => hmin s' r' hs'.isAbove_nil hsuf hs'⟩
  · rintro ⟨s, hsp, hs, hmin⟩
    exact ⟨s, hs.isAbove_nil, hsp, hs, fun s' r' _ hsuf hs' => hmin s' r' hsuf hs'⟩

/-- Of the annotations around a node one is the outermost. -/
theorem exists_annotated (hsp : s <:+ p) (hs : t.Annotates s r) : ∃ r', t.Annotated p r' := by
  classical
  have hex : ∃ n, ∃ s r, s <:+ p ∧ t.Annotates s r ∧ s.length = n := ⟨_, s, r, hsp, hs, rfl⟩
  obtain ⟨s', r', hsp', hs', hlen⟩ := Nat.find_spec hex
  refine ⟨r', s', hsp', hs', ?_⟩
  intro q r'' hqp hq
  have hmin := Nat.find_min' hex ⟨q, r'', hqp, hq, rfl⟩
  exact List.suffix_of_suffix_length_le hsp' hqp (hlen ▸ hmin)

/-! ### What an edge of the tree annotates -/

section Edges

variable {parent c : Tree}

theorem annotates_of_annotationRole (hparent : t.at? p = some parent)
    (hc : t.at? (i :: p) = some c)
    (h : annotationRole parent.label c.field (t.above p) = some r) : t.Annotates (i :: p) r := by
  unfold annotationRole at h
  split at h
  case h_1 name hlabel hfield | h_2 name hlabel hfield =>
    obtain rfl := Option.some.inj h
    exact .returned hparent (by rw [hlabel]; rfl) hc hfield
  case h_3 name hlabel hfield =>
    obtain rfl := Option.some.inj h
    exact .parameter hparent hlabel hc hfield
  case h_4 hlabel hfield =>
    split at h
    case h_1 scope hscope =>
      obtain ⟨s, hs, hat⟩ := (scopeIn_above hparent).mp hscope
      split at h
      case isTrue hfun =>
        obtain rfl := Option.some.inj h
        exact .localVariable hparent hlabel hc hfield hs hat hfun
      case isFalse hfun =>
        obtain rfl := Option.some.inj h
        refine .field hparent hlabel hc hfield ?_
        intro s' scope' hs' hat'
        obtain rfl := hs.unique hs'
        obtain rfl := Option.some.inj (hat.symm.trans hat')
        simpa using hfun
    case h_2 hnone =>
      obtain rfl := Option.some.inj h
      refine .field hparent hlabel hc hfield ?_
      intro s scope hs hat
      have hscope := (scopeIn_above hparent).mpr ⟨s, hs, hat⟩
      simp [hnone] at hscope
  case h_5 => simp at h

theorem annotationRole_of_annotates (hparent : t.at? p = some parent)
    (hc : t.at? (i :: p) = some c) (h : t.Annotates (i :: p) r) :
    annotationRole parent.label c.field (t.above p) = some r := by
  cases h with
  | returned hf hfun hc' hfield =>
    obtain rfl := Option.some.inj (hparent.symm.trans hf)
    obtain rfl := Option.some.inj (hc.symm.trans hc')
    rw [hfield]
    cases hlabel : parent.label <;> simp_all [annotationRole, Label.isFunction]
  | parameter ha hlabel hc' hfield =>
    obtain rfl := Option.some.inj (hparent.symm.trans ha)
    obtain rfl := Option.some.inj (hc.symm.trans hc')
    rw [hfield, hlabel]
    rfl
  | localVariable ha hlabel hc' hfield hs hat hfun =>
    obtain rfl := Option.some.inj (hparent.symm.trans ha)
    obtain rfl := Option.some.inj (hc.symm.trans hc')
    have hscope := (scopeIn_above hparent).mpr ⟨_, hs, hat⟩
    simp [hfield, hlabel, annotationRole, hscope, hfun]
  | field ha hlabel hc' hfield hno =>
    obtain rfl := Option.some.inj (hparent.symm.trans ha)
    obtain rfl := Option.some.inj (hc.symm.trans hc')
    cases hscope : scopeIn (t.above p) with
    | none => simp [hfield, hlabel, annotationRole, hscope]
    | some scope =>
      obtain ⟨s, hs, hat⟩ := (scopeIn_above hparent).mp hscope
      simp [hfield, hlabel, annotationRole, hscope, hno s scope hs hat]

/-- The role that an edge opens is that of the annotation behind it. -/
theorem annotationRole_eq_some_iff (hparent : t.at? p = some parent)
    (hc : t.at? (i :: p) = some c) :
    annotationRole parent.label c.field (t.above p) = some r ↔ t.Annotates (i :: p) r :=
  ⟨annotates_of_annotationRole hparent hc, annotationRole_of_annotates hparent hc⟩

end Edges

/-! ### The outermost annotation -/

/-- Nothing lies in an annotation below itself. -/
theorem not_annotatedBelow_self : ¬ t.AnnotatedBelow p p r := by
  rintro ⟨s, habove, hsuf, -⟩
  exact absurd hsuf.length_le (not_le.mpr habove.length_lt)

/-- On the way down from a node the annotation of the first step is the outermost one; without it,
the outermost one is found from that step on. -/
theorem annotatedBelow_iff_of_step (hstep : i :: q <:+ p) :
    t.AnnotatedBelow q p r ↔ t.Annotates (i :: q) r ∨
      (∀ r', ¬ t.Annotates (i :: q) r') ∧ t.AnnotatedBelow (i :: q) p r := by
  have hq : IsAbove q (i :: q) := isAbove_cons.mpr (List.suffix_refl q)
  -- What lies below `q` on the way to `p` is the first step or lies below it.
  have hbelow {s : List Nat} (hqs : IsAbove q s) (hsp : s <:+ p) :
      s = i :: q ∨ IsAbove (i :: q) s := by
    have hsuf : i :: q <:+ s :=
      List.suffix_of_suffix_length_le hstep hsp (Nat.succ_le_of_lt hqs.length_lt)
    by_cases heq : i :: q = s
    · exact .inl heq.symm
    · exact .inr ⟨hsuf, heq⟩
  constructor
  · rintro ⟨s, hqs, hsp, hs, hmin⟩
    rcases hbelow hqs hsp with rfl | hbelow'
    · exact .inl hs
    · refine .inr ⟨?_, s, hbelow', hsp, hs, ?_⟩
      · intro r' hr'
        have hsuf := hmin _ r' hq hstep hr'
        exact absurd hsuf.length_le (not_le.mpr hbelow'.length_lt)
      · intro s' r' hqs' hsp' hs'
        exact hmin s' r' (hq.trans hqs') hsp' hs'
  · rintro (hs | ⟨hno, s, hqs, hsp, hs, hmin⟩)
    · refine ⟨i :: q, hq, hstep, hs, ?_⟩
      intro s' r' hqs' hsp' _
      rcases hbelow hqs' hsp' with rfl | hbelow'
      · exact List.suffix_refl _
      · exact hbelow'.1
    · refine ⟨s, hq.trans hqs, hsp, hs, ?_⟩
      intro s' r' hqs' hsp' hs'
      rcases hbelow hqs' hsp' with rfl | hbelow'
      · exact absurd hs' (hno r')
      · exact hmin s' r' hbelow' hsp' hs'

end Tree

/-! ### Roles in a traversal -/

section Roles

variable {t u : Tree} {path : List Nat} {role : Option Role} {o : Occurrence} {r : Role}

/-- A node is met with the role with which the traversal starts, or else with that of the outermost
annotation on the way. -/
theorem role_of_mem_walk (h : t.at? path = some u)
    (ho : o ∈ walk (t.above path) path role u) :
    o.role = some r ↔ role = some r ∨ role = none ∧ t.AnnotatedBelow path o.path r := by
  induction u using Tree.induct generalizing path role with
  | node f l s cs ih =>
    rcases mem_walk.mp ho with rfl | ⟨i, c, hc, ho⟩
    · simp [Tree.not_annotatedBelow_self]
    · have hat : t.at? (i :: path) = some c := Tree.at?_cons_eq_some.mpr ⟨_, h, hc⟩
      rw [branch, ← Tree.above_cons h i] at ho
      have hstep := (faithful_of_mem_walk hat ho).1
      have hedge {r' : Role} := Tree.annotationRole_eq_some_iff (r := r') h hat
      rw [ih c (List.mem_of_getElem? hc) hat ho, Tree.annotatedBelow_iff_of_step hstep]
      cases role with
      | some r₀ => simp
      | none =>
        have hnone : annotationRole (Tree.node f l s cs).label c.field (t.above path) = none ↔
            ∀ r', ¬ t.Annotates (i :: path) r' := by
          rw [Option.eq_none_iff_forall_ne_some]
          exact forall_congr' fun r' => not_congr hedge
        simp [hedge, hnone]

theorem role_of_mem_walk_root (ho : o ∈ walk [] [] none t) :
    o.role = some r ↔ t.Annotated o.path r := by
  have hrole := role_of_mem_walk (r := r) (Tree.at?_nil t) ho
  simpa [Tree.annotatedBelow_nil] using hrole

end Roles

/-! ### Type references -/

/-- The kind of what is no name or attribute does not depend on annotations. -/
theorem classify_of_not_reference {t : Tree} (h : t.label.isReference = false)
    (ancestors : List Tree) (role : Option Role) :
    classify t ancestors role = classify t ancestors none := by
  obtain ⟨f, l, s, cs⟩ := t
  cases l <;> first | rfl | cases h

theorem kind_ne_typeRef_of_not_reference {t : Tree} (h : t.label.isReference = false)
    {ancestors : List Tree} {role : Option Role} {k : Kind × Option Role}
    (hk : classify t ancestors role = some k) : k.1 ≠ .typeRef := by
  unfold classify at hk
  split at hk
  case h_10 hl | h_11 hl => simp [hl, Label.isReference] at h
  all_goals (repeat' split at hk) <;> cases hk <;> simp

/-- A name or an attribute is a type reference if it lies in an annotation and is no step of a
longer name. -/
theorem classify_of_reference {t : Tree} (h : t.label.isReference = true)
    (ancestors : List Tree) (role : Option Role) :
    classify t ancestors role =
      if ancestors.head?.any (·.label.isMember) then none
      else role.map fun r => (.typeRef, some r) := by
  rcases Label.isReference_iff.mp h with ⟨id, hl⟩ | ⟨attr, hl⟩
  all_goals
    rw [classify.eq_def, hl]
    cases role with
    | none => cases hm : ancestors.head?.any (·.label.isMember) <;> simp
    | some r =>
      cases ancestors with
      | nil => rfl
      | cons parent rest => cases hm : parent.label.isMember <;> simp [hm]

/-- The kinds of type references. -/
theorem classify_eq_typeRef_iff {t : Tree} {ancestors : List Tree} {role role' : Option Role} :
    classify t ancestors role = some (.typeRef, role') ↔ t.label.isReference = true ∧
      ancestors.head?.any (·.label.isMember) = false ∧ ∃ r, role = some r ∧ role' = some r := by
  cases href : t.label.isReference with
  | false =>
    refine iff_of_false (fun hk => ?_) (by simp)
    exact kind_ne_typeRef_of_not_reference href hk rfl
  | true =>
    rw [classify_of_reference href]
    cases ancestors.head?.any (·.label.isMember) <;> simp [eq_comm]

/-- An occurrence, without the annotation that it lies in. -/
def Occurrence.plain (o : Occurrence) : Occurrence := { o with role := none }

/-- The occurrence of a node, without the annotation that it lies in. -/
def Node.plain (n : Node) : Occurrence := ⟨n.tree, n.ancestors, n.path, none⟩

theorem Occurrence.plain_eq_iff {o : Occurrence} {n : Node} : o.plain = n.plain ↔
    o.tree = n.tree ∧ o.ancestors = n.ancestors ∧ o.path = n.path := by
  simp [plain, Node.plain]

/-- The occurrences of type references: they have a role, and they are names or attributes that are
no steps of longer names. -/
theorem node?_eq_typeRef_iff {o : Occurrence} {n : Node} (hn : n.kind = .typeRef) :
    o.node? = some n ↔ o.plain = n.plain ∧ n.tree.label.isReference = true ∧
      n.ancestors.head?.any (·.label.isMember) = false ∧ ∃ r, o.role = some r ∧ n.role = some r := by
  rw [Occurrence.node?_eq_some]
  constructor
  · rintro ⟨kind, role, hclass, rfl⟩
    obtain rfl : kind = .typeRef := hn
    exact ⟨rfl, classify_eq_typeRef_iff.mp hclass⟩
  · rintro ⟨hplain, hreference⟩
    obtain ⟨htree, hancestors, hpath⟩ := Occurrence.plain_eq_iff.mp hplain
    refine ⟨.typeRef, n.role, ?_, ?_⟩
    · rw [htree, hancestors]
      exact classify_eq_typeRef_iff.mpr hreference
    · rw [htree, hancestors, hpath, ← hn]

/-- The type references of a tree with their roles. -/
theorem exists_typeRef_iff {t : Tree} {path : List Nat} {r : Role} :
    (∃ n ∈ nodes t, n.path = path ∧ n.kind = .typeRef ∧ n.role = some r) ↔
      ∃ v, t.at? path = some v ∧ v.label.isReference = true ∧
        (t.above path).head?.any (·.label.isMember) = false ∧ t.Annotated path r := by
  constructor
  · rintro ⟨n, hn, rfl, hkind, hrole⟩
    obtain ⟨hat, habove⟩ := faithful_of_mem_nodes hn
    obtain ⟨o, ho, hnode⟩ := List.mem_filterMap.mp hn
    obtain ⟨hplain, href, hparent, r', hr', hrole'⟩ := (node?_eq_typeRef_iff hkind).mp hnode
    obtain rfl : r' = r := Option.some.inj (hrole'.symm.trans hrole)
    have hannotated := (role_of_mem_walk_root ho).mp hr'
    rw [(Occurrence.plain_eq_iff.mp hplain).2.2] at hannotated
    exact ⟨n.tree, hat, href, habove ▸ hparent, hannotated⟩
  · rintro ⟨v, hv, href, hparent, hannotated⟩
    obtain ⟨o, ho, rfl⟩ := exists_occurrence hv
    obtain ⟨hat, habove⟩ := faithful_of_mem_walk_root ho
    obtain rfl : o.tree = v := Option.some.inj (hat.symm.trans hv)
    have hrole := (role_of_mem_walk_root ho).mpr hannotated
    have hclass : classify o.tree o.ancestors o.role = some (.typeRef, some r) :=
      classify_eq_typeRef_iff.mpr ⟨href, habove ▸ hparent, r, hrole, rfl⟩
    exact ⟨_, mem_nodes_of_classify ho hclass, rfl, rfl, rfl⟩

end Grader.Source
