import Mathlib
import Grader.Proofs.Source.Names
import Grader.Proofs.Text.Dotted

/-!
Chains of attributes on names. If no identifier has a dot in it, then a dotted name tells the chain
that spells it by its segments, and a call is called by the chain that is its callee. What is called
by a placeholder is no chain.
-/

namespace Grader.Source

/-! ### Identifiers -/

/-- Whether a text can be an identifier: it is not empty, and it has neither a dot, which would part
it, nor a question mark, which stands for what has no name. -/
def isIdentifier (id : String) : Bool :=
  id != "" && !id.toList.contains '.' && !id.toList.contains '?'

namespace Label

/-- The identifier of a name or of an attribute. -/
def identifier? : Label → Option String
  | name id | member id => some id
  | _ => none

theorem identifier?_eq_some_iff {l : Label} {id : String} :
    l.identifier? = some id ↔ l = .name id ∨ l = .member id := by
  cases l <;> simp [identifier?]

end Label

/-- Whether the identifier of a node, if it has one, can be one. -/
def Tree.isWellNamed (t : Tree) : Bool := t.label.identifier?.all isIdentifier

variable {t c : Tree} {id s e : String} {ids ids' : List String}

theorem isIdentifier_iff :
    isIdentifier id = true ↔ id ≠ "" ∧ '.' ∉ id.toList ∧ '?' ∉ id.toList := by
  simp [isIdentifier, and_assoc]

theorem isIdentifier_of_identifier? (ht : t.all Tree.isWellNamed = true)
    (h : t.label.identifier? = some id) : isIdentifier id = true := by
  have hl := (Tree.all_iff.mp ht).1
  rwa [Tree.isWellNamed, h, Option.all_some] at hl

/-! ### Chains -/

/-- A tree is a chain of attributes on a name, with these identifiers in the order of the text. -/
inductive Tree.IsChain : Tree → List String → Prop
  | name {t : Tree} {id : String} : t.label = .name id → IsChain t [id]
  | member {t c : Tree} {attr : String} {ids : List String} : t.label = .member attr →
      t.child? .value = some c → IsChain c ids → IsChain t (ids ++ [attr])

/-- A tree is one chain at most. -/
theorem Tree.IsChain.unique (h : t.IsChain ids) (h' : t.IsChain ids') : ids = ids' := by
  induction h generalizing ids' with
  | name hl =>
    cases h' with
    | name hl' => rw [Label.name.inj (hl.symm.trans hl')]
    | member hl' => simp [hl] at hl'
  | member hl hc _ ih =>
    cases h' with
    | name hl' => simp [hl] at hl'
    | member hl' hc' h' =>
      obtain rfl := Option.some.inj (hc.symm.trans hc')
      rw [Label.member.inj (hl.symm.trans hl'), ih h']

/-- A chain has a dotted name, and its identifiers are the segments of that name. -/
theorem Tree.IsChain.exists_dottedName (h : t.IsChain ids)
    (ht : t.all Tree.isWellNamed = true) :
    ∃ s, dottedName t = some s ∧ s ≠ "" ∧ Text.Dotted.segments s = ids := by
  simp only [dottedName_eq_some_iff]
  induction h with
  | @name t id hl =>
    have hid := isIdentifier_of_identifier? ht (Label.identifier?_eq_some_iff.mpr (.inl hl))
    obtain ⟨hne, hdot, -⟩ := isIdentifier_iff.mp hid
    exact ⟨id, .name hl, hne, Text.Dotted.segments_of_not_mem hdot⟩
  | @member t c attr ids hl hc _ ih =>
    have hattr := isIdentifier_of_identifier? ht (Label.identifier?_eq_some_iff.mpr (.inr hl))
    obtain ⟨hne, hdot, -⟩ := isIdentifier_iff.mp hattr
    obtain ⟨base, hbase, hbne, hsegments⟩ := ih (Tree.all_of_child? ht hc)
    refine ⟨base ++ "." ++ attr, .member hl hc hbase hbne, ?_, ?_⟩
    · intro hempty
      have hlist := congrArg String.toList hempty
      rw [String.toList_append, String.toList_append] at hlist
      simp at hlist
    · rw [Text.Dotted.segments_append_dot, hsegments, Text.Dotted.segments_of_not_mem hdot]

theorem isChain_of_dottedName (ht : t.all Tree.isWellNamed = true) (h : dottedName t = some s) :
    t.IsChain (Text.Dotted.segments s) := by
  rw [dottedName_eq_some_iff] at h
  induction h with
  | @name t id hl =>
    have hid := isIdentifier_of_identifier? ht (Label.identifier?_eq_some_iff.mpr (.inl hl))
    rw [Text.Dotted.segments_of_not_mem (isIdentifier_iff.mp hid).2.1]
    exact .name hl
  | @member t c attr base hl hc _ _ ih =>
    have hattr := isIdentifier_of_identifier? ht (Label.identifier?_eq_some_iff.mpr (.inr hl))
    rw [Text.Dotted.segments_append_dot,
      Text.Dotted.segments_of_not_mem (isIdentifier_iff.mp hattr).2.1]
    exact .member hl hc (ih (Tree.all_of_child? ht hc))

/-- A tree has a dotted name exactly if the segments of the name are the identifiers of a chain that
the tree is. -/
theorem dottedName_eq_some_iff_isChain (ht : t.all Tree.isWellNamed = true) :
    dottedName t = some s ↔ t.IsChain (Text.Dotted.segments s) := by
  refine ⟨isChain_of_dottedName ht, fun h => ?_⟩
  obtain ⟨s', hs', -, hsegments⟩ := h.exists_dottedName ht
  rwa [← Text.Dotted.segments_injective hsegments]

theorem ne_empty_of_dottedName (ht : t.all Tree.isWellNamed = true)
    (h : dottedName t = some s) : s ≠ "" := by
  obtain ⟨s', hs', hne, -⟩ := (isChain_of_dottedName ht h).exists_dottedName ht
  rwa [Option.some.inj (h.symm.trans hs')]

/-! ### What a call calls -/

theorem callName_of_dottedName (hc : t.child? .func = some c) (ht : t.all Tree.isWellNamed = true)
    (h : dottedName c = some s) : callName t = s := by
  have hname : (dottedName c).filter (· != "") = some s := by
    simp [h, ne_empty_of_dottedName (Tree.all_of_child? ht hc) h]
  simp only [callName, hc, hname]

theorem callName_of_attribute (hc : t.child? .func = some c) (h : dottedName c = none)
    (hl : c.label = .member id) : callName t = "?" ++ "." ++ id := by
  simp only [callName, hc, h, hl, Option.filter_none]
  rfl

theorem callName_of_nameless (h : ∀ c id, t.child? .func = some c → c.label.identifier? ≠ some id) :
    callName t = "?" := by
  cases hc : t.child? .func with
  | none => simp only [callName, hc]
  | some c =>
    have hnone : dottedName c = none := by
      rw [Option.eq_none_iff_forall_ne_some]
      intro s hs
      rcases dottedName_eq_some_iff.mp hs with hl | ⟨hl, -⟩
      · exact h c _ hc (Label.identifier?_eq_some_iff.mpr (.inl hl))
      · exact h c _ hc (Label.identifier?_eq_some_iff.mpr (.inr hl))
    simp only [callName, hc, hnone, Option.filter_none]
    split
    case h_1 hs => cases hs
    case h_2 hl => exact absurd (Label.identifier?_eq_some_iff.mpr (.inr hl)) (h c _ hc)
    case h_3 => rfl

/-- A call is called by a placeholder, or by the chain that is its callee. -/
theorem callName_cases (ht : t.all Tree.isWellNamed = true) :
    (callName t).toList.head? = some '?' ∨ ∃ c, t.child? .func = some c ∧
      dottedName c = some (callName t) := by
  by_cases hid : ∃ c id, t.child? .func = some c ∧ c.label.identifier? = some id
  · obtain ⟨c, id, hc, hid⟩ := hid
    cases h : dottedName c with
    | some s => exact .inr ⟨c, hc, by rw [h, callName_of_dottedName hc ht h]⟩
    | none =>
      rcases Label.identifier?_eq_some_iff.mp hid with hl | hl
      · rw [dottedName_eq_some_iff.mpr (.name hl)] at h
        cases h
      · rw [callName_of_attribute hc h hl]
        exact .inl (by simp)
  · rw [callName_of_nameless fun c id hc hid' => hid ⟨c, id, hc, hid'⟩]
    exact .inl rfl

/-- A call is called by a name that is no placeholder exactly if its callee is the chain that the
name spells. -/
theorem callName_eq_iff (ht : t.all Tree.isWellNamed = true) (he : e.toList.head? ≠ some '?') :
    callName t = e ↔
      ∃ c, t.child? .func = some c ∧ c.IsChain (Text.Dotted.segments e) := by
  constructor
  · rintro rfl
    obtain ⟨c, hc, hname⟩ := (callName_cases ht).resolve_left he
    exact ⟨c, hc, isChain_of_dottedName (Tree.all_of_child? ht hc) hname⟩
  · rintro ⟨c, hc, hchain⟩
    exact callName_of_dottedName hc ht
      ((dottedName_eq_some_iff_isChain (Tree.all_of_child? ht hc)).mpr hchain)

/-- The last segment of what a call is called by is the final identifier of its callee, whatever an
attribute belongs to. -/
theorem lastSegment_callName (hc : t.child? .func = some c) (ht : t.all Tree.isWellNamed = true)
    (hid : c.label.identifier? = some id) : Text.Dotted.lastSegment (callName t) = id := by
  have hdot : '.' ∉ id.toList :=
    (isIdentifier_iff.mp (isIdentifier_of_identifier? (Tree.all_of_child? ht hc) hid)).2.1
  rw [Text.Dotted.lastSegment_eq_iff]
  rcases Label.identifier?_eq_some_iff.mp hid with hl | hl
  · rw [callName_of_dottedName hc ht (dottedName_eq_some_iff.mpr (.name hl))]
    exact .whole hdot
  · cases h : dottedName c with
    | none =>
      rw [callName_of_attribute hc h hl]
      exact .behind hdot
    | some s =>
      rw [callName_of_dottedName hc ht h]
      rcases dottedName_eq_some_iff.mp h with hl' | ⟨hl', -, -, -⟩
      · simp [hl] at hl'
      · obtain rfl := Label.member.inj (hl.symm.trans hl')
        exact .behind hdot

/-- The last segment is in a list without the placeholder exactly if the final identifier is. -/
theorem lastSegment_callName_mem_iff (ht : t.all Tree.isWellNamed = true) {names : List String}
    (hnames : "?" ∉ names) : Text.Dotted.lastSegment (callName t) ∈ names ↔
      ∃ c id, t.child? .func = some c ∧ c.label.identifier? = some id ∧ id ∈ names := by
  constructor
  · intro h
    by_cases hid : ∃ c id, t.child? .func = some c ∧ c.label.identifier? = some id
    · obtain ⟨c, id, hc, hid⟩ := hid
      exact ⟨c, id, hc, hid, lastSegment_callName hc ht hid ▸ h⟩
    · have hlast : Text.Dotted.IsLastSegment "?" "?" := .whole (by decide)
      rw [callName_of_nameless fun c id hc hid' => hid ⟨c, id, hc, hid'⟩, hlast.eq] at h
      exact absurd h hnames
  · rintro ⟨c, id, hc, hid, hmem⟩
    rwa [lastSegment_callName hc ht hid]

end Grader.Source
