import Mathlib
import Grader.Source.Literal
import Grader.Proofs.Source.Grammar

/-!
Immutable literals. Below a freezing call the displays of lists and sets are admitted, and not only
as its arguments: the license is handed on through operators, and through displays as well. Where it
is needed through operators only, nothing in the value of the literal can be changed.
-/

namespace Grader.Source

namespace Label

/-- Unary and binary operators. -/
def isOperator : Label → Bool
  | unaryOp | binOp => true
  | _ => false

/-- Displays of elements. -/
def isCollection : Label → Bool
  | tuple | list | set => true
  | _ => false

/-- Displays whose value can be changed. -/
def isMutableCollection : Label → Bool
  | list | set => true
  | _ => false

/-- Expressions that make a new container: displays of lists, sets and dictionaries, and
comprehensions. -/
def makesContainer : Label → Bool
  | list | set | dict | listComp | setComp | dictComp | generatorExp => true
  | _ => false

/-- Names of callables whose result is immutable. -/
def isFreezing : Label → Bool
  | name id => freezingCalls.contains id
  | _ => false

/-- Expressions that hand on to their operands and elements whether they are frozen. -/
def isTransparent (l : Label) : Bool := l.isOperator || l.isCollection

end Label

namespace Tree

/-- A call of a callable whose result is immutable. -/
def isFreezingCall (t : Tree) : Bool :=
  t.label == .call && (t.child? .func).any (·.label.isFreezing)

/-- Whether a node has one callee at most. -/
def hasOneCallee (t : Tree) : Bool := (t.childrenAt .func).length ≤ 1

/-- What follows Python's abstract grammar, by which a call has one callee. -/
structure IsWellFormed (e : Tree) : Prop where
  conforms : e.conforms = true
  callees : e.all hasOneCallee = true

theorem IsWellFormed.child {e c : Tree} (h : e.IsWellFormed) (hc : c ∈ e.children) :
    c.IsWellFormed where
  conforms := (conforms_iff.mp h.conforms c hc).2
  callees := (all_iff.mp h.callees).2 c hc

/-- The nearest of the nodes above a node, the parent first, that has none of these labels, and the
field by which it holds the node. -/
def holder (through : Label → Bool) (d : Tree) : List Tree → Option (Field × Tree)
  | [] => none
  | parent :: above =>
    if through parent.label then parent.holder through above else some (d.field, parent)

/-- Whether a node is a positional argument of a freezing call, if need be through nodes with these
labels. -/
def isFrozenIn (through : Label → Bool) (d : Tree) (above : List Tree) : Bool :=
  (d.holder through above).any fun h => h.1 == .args && h.2.isFreezingCall

/-- Whether a node is an element of a display, if need be through operators. -/
def isElementIn (d : Tree) (above : List Tree) : Bool :=
  (d.holder Label.isOperator above).any (·.2.label.isCollection)

/-- The expressions in an expression that make containers are lists and sets that are frozen through
nodes with these labels. -/
def FreezesContainers (through : Label → Bool) (e : Tree) (above : List Tree) : Prop :=
  ∀ path d, e.at? path = some d → d.label.makesContainer = true →
    d.label.isMutableCollection = true ∧ d.isFrozenIn through (e.above path ++ above) = true

end Tree

/-- Lists and sets are what makes a container and hands its license on. -/
theorem Label.isMutableCollection_eq (l : Label) :
    l.isMutableCollection = (l.isTransparent && l.makesContainer) := by
  cases l <;> rfl

theorem label_of_isFreezingCall {t : Tree} (h : t.isFreezingCall = true) : t.label = .call := by
  obtain ⟨hl, -⟩ := Bool.and_eq_true_iff.mp h
  exact eq_of_beq hl

/-! ### What literals consist of -/

theorem calleeFreezes_eq (cs : List Tree) :
    calleeFreezes cs = (cs.find? (·.field == .func)).any (·.label.isFreezing) := by
  induction cs with
  | nil => rfl
  | cons c cs ih =>
    rw [calleeFreezes, List.find?_cons]
    by_cases hc : c.field = .func
    · simp only [hc, if_true, beq_self_eq_true, Option.any_some]
      rfl
    · rw [if_neg hc, beq_eq_false_iff_ne.mpr hc, ih]

theorem allImmutable_iff {frozen : Bool} {ts : List Tree} :
    allImmutable frozen ts = true ↔ ∀ t ∈ ts, isImmutableLiteral frozen t = true := by
  induction ts with
  | nil => simp [allImmutable]
  | cons t ts ih => simp [allImmutable, ih]

theorem argumentsImmutable_iff {ts : List Tree} :
    argumentsImmutable ts = true ↔
      ∀ t ∈ ts, t.field = .func ∨ t.field = .args ∧ isImmutableLiteral true t = true := by
  induction ts with
  | nil => simp [argumentsImmutable]
  | cons t ts ih => simp [argumentsImmutable, ih]

/-- What an immutable literal is: a constant, an operator or a display whose parts are such, or a
freezing call whose arguments are, once they are frozen. -/
inductive IsLiteral (frozen : Bool) (t : Tree) : Prop where
  | constant (c : Constant) (label : t.label = .constant c)
  | transparent (label : t.label.isTransparent = true)
      (license : t.label.isMutableCollection = true → frozen = true)
      (parts : ∀ c ∈ t.children, isImmutableLiteral frozen c = true)
  | freezing (callee : t.isFreezingCall = true)
      (arguments : ∀ c ∈ t.children,
        c.field = .func ∨ c.field = .args ∧ isImmutableLiteral true c = true)

theorem isLiteral_iff {frozen : Bool} {t : Tree} :
    isImmutableLiteral frozen t = true ↔ IsLiteral frozen t := by
  obtain ⟨f, l, s, cs⟩ := t
  constructor
  · intro h
    cases l
    case constant c => exact .constant c rfl
    case call =>
      obtain ⟨hcallee, harguments⟩ := Bool.and_eq_true_iff.mp h
      refine .freezing ?_ (argumentsImmutable_iff.mp harguments)
      rw [calleeFreezes_eq] at hcallee
      exact hcallee
    case list | set =>
      obtain ⟨hfrozen, hparts⟩ := Bool.and_eq_true_iff.mp h
      exact .transparent rfl (fun _ => hfrozen) (allImmutable_iff.mp hparts)
    case tuple | unaryOp | binOp => exact .transparent rfl nofun (allImmutable_iff.mp h)
    all_goals cases h
  · rintro (⟨c, hl⟩ | ⟨hl, hlicense, hparts⟩ | ⟨hcall, harguments⟩)
    · obtain rfl : l = .constant c := hl
      rfl
    · have hparts := allImmutable_iff.mpr hparts
      cases l
      case list | set => exact Bool.and_eq_true_iff.mpr ⟨hlicense rfl, hparts⟩
      case tuple | unaryOp | binOp => exact hparts
      all_goals cases hl
    · obtain rfl : l = .call := label_of_isFreezingCall hcall
      refine Bool.and_eq_true_iff.mpr ⟨?_, argumentsImmutable_iff.mpr harguments⟩
      rw [calleeFreezes_eq]
      exact hcall

/-- What is built of constants, operators, displays and freezing calls with positional arguments,
wherever its displays stand. -/
inductive Tree.IsPlain : Tree → Prop
  | constant {t : Tree} (c : Constant) (label : t.label = .constant c) : t.IsPlain
  | transparent {t : Tree} (label : t.label.isTransparent = true)
      (parts : ∀ c ∈ t.children, c.IsPlain) : t.IsPlain
  | freezing {t : Tree} (callee : t.isFreezingCall = true)
      (positional : ∀ c ∈ t.children, c.field = .func ∨ c.field = .args)
      (arguments : ∀ c ∈ t.children, c.field = .args → c.IsPlain) : t.IsPlain

/-! ### Where containers are made -/

section Containers

variable {through : Label → Bool} {e c d : Tree} {above : List Tree}

/-- A node is frozen as its parent is, through the label of the parent. -/
theorem isFrozenIn_cons_of_pos (h : through e.label = true) :
    d.isFrozenIn through (e :: above) = e.isFrozenIn through above := by
  rw [Tree.isFrozenIn, Tree.holder, if_pos h, Tree.isFrozenIn]

theorem isFrozenIn_cons_of_neg (h : through e.label = false) :
    d.isFrozenIn through (e :: above) = (d.field == .args && e.isFreezingCall) := by
  rw [Tree.isFrozenIn, Tree.holder, if_neg (by simp [h])]
  rfl

/-- Containers are frozen in an expression if it is frozen itself, should it make one, and they are
in its parts. -/
theorem freezesContainers_node_iff {f : Field} {l : Label} {s : Option Location} {cs : List Tree} :
    (Tree.node f l s cs).FreezesContainers through above ↔
      (l.makesContainer = true → l.isMutableCollection = true ∧
        (Tree.node f l s cs).isFrozenIn through above = true) ∧
      ∀ c ∈ cs, c.FreezesContainers through (.node f l s cs :: above) := by
  constructor
  · intro h
    refine ⟨h [] _ rfl, fun c hc path d hat => ?_⟩
    obtain ⟨i, hi⟩ := List.getElem?_of_mem hc
    have hchild : (Tree.node f l s cs).children[i]? = some c := hi
    have hd := h (path ++ [i]) d (Tree.at?_concat_eq_some.mpr ⟨c, hchild, hat⟩)
    rwa [Tree.above_concat hchild, List.append_assoc] at hd
  · rintro ⟨hitself, hparts⟩ path d hat
    rcases List.eq_nil_or_concat path with rfl | ⟨path, i, rfl⟩
    · obtain rfl : Tree.node f l s cs = d := by simpa using hat
      exact hitself
    · rw [List.concat_eq_append] at hat ⊢
      obtain ⟨c, hi, hat⟩ := Tree.at?_concat_eq_some.mp hat
      rw [Tree.above_concat hi, List.append_assoc]
      exact hparts c (List.mem_of_getElem? hi) path d hat

/-- Names of freezing callables, and the symbols that they hold. -/
def Label.isInert (l : Label) : Bool := l.isFreezing || l.category == .symbol

theorem Label.makesContainer_of_isInert {l : Label} (h : l.isInert = true) :
    l.makesContainer = false := by
  cases l <;> first | rfl | cases h

theorem Label.isInert_of_holds {l l' : Label} {f : Field} (hl : l.isInert = true)
    (h : l.holds f l' = true) : l'.isInert = true := by
  have hsymbol : l'.category = .symbol := by
    cases l
    case name id =>
      have hmem : (f, l'.category) ∈ [(Field.ctx, Category.symbol)] := List.contains_iff_mem.mp h
      exact (Prod.mk.inj (List.mem_singleton.mp hmem)).2
    case symbol name => cases h
    all_goals cases hl
  rw [isInert, hsymbol, beq_self_eq_true, Bool.or_true]

/-- In the callee of a freezing call nothing makes a container. -/
theorem freezesContainers_of_isInert (hc : c.conforms = true) (h : c.label.isInert = true) :
    c.FreezesContainers through above := by
  induction c using Tree.induct generalizing above with
  | node f l s cs ih =>
    refine freezesContainers_node_iff.mpr ⟨fun hl => ?_, fun c hmem => ?_⟩
    · rw [Label.makesContainer_of_isInert (show l.isInert = true from h)] at hl
      cases hl
    · obtain ⟨hholds, hconforms⟩ := Tree.conforms_iff.mp hc c hmem
      exact ih c hmem hconforms (Label.isInert_of_holds h hholds)

/-- The one callee of a freezing call is the name of a freezing callable. -/
theorem isInert_of_callee (he : e.isFreezingCall = true) (hone : e.hasOneCallee = true)
    (hc : c ∈ e.children) (hfunc : c.field = .func) : c.label.isInert = true := by
  obtain ⟨-, hany⟩ := Bool.and_eq_true_iff.mp he
  obtain ⟨callee, hcallee, hfreezing⟩ := (Option.any_eq_true _ _).mp hany
  have hmem : c ∈ e.childrenAt .func := List.mem_filter.mpr ⟨hc, by simp [hfunc]⟩
  have hhead : (e.childrenAt .func).head? = some callee :=
    (List.head?_filter ..).trans hcallee
  -- There is one callee, which is therefore the first one.
  obtain ⟨_, hcallees⟩ := List.length_eq_one_iff.mp
    (le_antisymm (of_decide_eq_true hone) (List.length_pos_of_mem hmem))
  rw [hcallees] at hmem hhead
  obtain rfl : c = callee := (List.mem_singleton.mp hmem).trans (Option.some.inj hhead)
  rw [Label.isInert, hfreezing, Bool.true_or]

theorem isFrozenIn_of_isFreezingCall (he : e.isFreezingCall = true) (hc : c.field = .args) :
    c.isFrozenIn Label.isTransparent (e :: above) = true := by
  rw [isFrozenIn_cons_of_neg (by rw [label_of_isFreezingCall he]; rfl), hc, he]
  rfl

/-- A literal is plain, and what makes a container in it is frozen, through operators and displays.
The license of a literal comes from above, and so does the one that it hands on to its parts: from
the literal itself, or from further above through it. -/
theorem freezesContainers_of_isImmutableLiteral (he : e.IsWellFormed)
    (h : isImmutableLiteral (e.isFrozenIn Label.isTransparent above) e = true) :
    e.IsPlain ∧ e.FreezesContainers Label.isTransparent above := by
  induction e using Tree.induct generalizing above with
  | node f l s cs ih =>
    rw [freezesContainers_node_iff]
    rcases isLiteral_iff.mp h with ⟨c, hl⟩ | ⟨hl, hlicense, hparts⟩ | ⟨hcall, harguments⟩
    · obtain rfl : l = .constant c := hl
      refine ⟨.constant c rfl, nofun, fun c hc => ?_⟩
      -- A constant has no parts.
      obtain ⟨hholds, -⟩ := Tree.conforms_iff.mp he.conforms c hc
      cases hholds
    · have hpart (c : Tree) (hc : c ∈ cs) :
          c.IsPlain ∧ c.FreezesContainers Label.isTransparent (.node f l s cs :: above) := by
        refine ih c hc (he.child hc) ?_
        rw [isFrozenIn_cons_of_pos hl]
        exact hparts c hc
      refine ⟨.transparent hl fun c hc => (hpart c hc).1, fun hmakes => ?_,
        fun c hc => (hpart c hc).2⟩
      have hmutable : l.isMutableCollection = true :=
        (Label.isMutableCollection_eq l).trans (Bool.and_eq_true_iff.mpr ⟨hl, hmakes⟩)
      exact ⟨hmutable, hlicense hmutable⟩
    · obtain rfl : l = .call := label_of_isFreezingCall hcall
      have hargument (c : Tree) (hc : c ∈ cs) (hargs : c.field = .args)
          (hliteral : isImmutableLiteral true c = true) :
          c.IsPlain ∧ c.FreezesContainers Label.isTransparent (.node f .call s cs :: above) := by
        refine ih c hc (he.child hc) ?_
        rwa [isFrozenIn_of_isFreezingCall hcall hargs]
      refine ⟨.freezing hcall (fun c hc => ?_) fun c hc hargs => ?_, nofun, fun c hc => ?_⟩
      · exact (harguments c hc).imp_right And.left
      · rcases harguments c hc with hfunc | ⟨-, hliteral⟩
        · cases hfunc.symm.trans hargs
        · exact (hargument c hc hargs hliteral).1
      · rcases harguments c hc with hfunc | ⟨hargs, hliteral⟩
        · exact freezesContainers_of_isInert (he.child hc).conforms
            (isInert_of_callee hcall (Tree.all_iff.mp he.callees).1 hc hfunc)
        · exact (hargument c hc hargs hliteral).2

/-- What is plain is a literal if what makes a container in it is frozen. -/
theorem isImmutableLiteral_of_freezesContainers (hplain : e.IsPlain)
    (h : e.FreezesContainers Label.isTransparent above) :
    isImmutableLiteral (e.isFrozenIn Label.isTransparent above) e = true := by
  induction e using Tree.induct generalizing above with
  | node f l s cs ih =>
    obtain ⟨hitself, hfreezes⟩ := freezesContainers_node_iff.mp h
    refine isLiteral_iff.mpr ?_
    cases hplain with
    | constant c hl => exact .constant c hl
    | transparent hl hparts =>
      refine .transparent hl (fun hmutable => ?_) fun c hc => ?_
      · have hmakes : (l.isTransparent && l.makesContainer) = true :=
          (Label.isMutableCollection_eq l).symm.trans hmutable
        exact (hitself (Bool.and_eq_true_iff.mp hmakes).2).2
      · have hliteral := ih c hc (hparts c hc) (hfreezes c hc)
        rwa [isFrozenIn_cons_of_pos hl] at hliteral
    | freezing hcall hpositional harguments =>
      refine .freezing hcall fun c hc => ?_
      rcases hpositional c hc with hfunc | hargs
      · exact .inl hfunc
      · have hliteral := ih c hc (harguments c hc hargs) (hfreezes c hc)
        rw [isFrozenIn_of_isFreezingCall hcall hargs] at hliteral
        exact .inr ⟨hargs, hliteral⟩

theorem isImmutableLiteral_iff (he : e.IsWellFormed) : isImmutableLiteral false e = true ↔
    e.IsPlain ∧ e.FreezesContainers Label.isTransparent [] := by
  -- With nothing above it an expression has no license.
  have hlicense : e.isFrozenIn Label.isTransparent [] = false := rfl
  constructor
  · intro h
    rw [← hlicense] at h
    exact freezesContainers_of_isImmutableLiteral he h
  · rintro ⟨hplain, h⟩
    rw [← hlicense]
    exact isImmutableLiteral_of_freezesContainers hplain h

theorem isFrozenIn_of_isCollection (h : e.label.isCollection = true) :
    d.isFrozenIn Label.isOperator (e :: above) = false := by
  have hcall : e.isFreezingCall = false := by
    by_contra hcall
    rw [label_of_isFreezingCall (by simpa using hcall)] at h
    cases h
  have hoperator : e.label.isOperator = false := by
    cases hl : e.label <;> simp_all [Label.isCollection, Label.isOperator]
  rw [isFrozenIn_cons_of_neg hoperator, hcall, Bool.and_false]

theorem isElementIn_cons_of_pos (h : e.label.isOperator = true) :
    d.isElementIn (e :: above) = e.isElementIn above := by
  rw [Tree.isElementIn, Tree.holder, if_pos h, Tree.isElementIn]

theorem isElementIn_cons_of_neg (h : e.label.isOperator = false) :
    d.isElementIn (e :: above) = e.label.isCollection := by
  rw [Tree.isElementIn, Tree.holder, if_neg (by simp [h]), Option.any_some]

/-- What is frozen through operators and displays is frozen through operators only, unless it is an
element of a display. -/
theorem isFrozenIn_isOperator (h : d.isFrozenIn Label.isTransparent above = true) :
    d.isFrozenIn Label.isOperator above = !d.isElementIn above := by
  induction above generalizing d with
  | nil => cases h
  | cons e above ih =>
    cases hoperator : e.label.isOperator with
    | true =>
      rw [isFrozenIn_cons_of_pos (Bool.or_eq_true_iff.mpr (.inl hoperator))] at h
      rw [isFrozenIn_cons_of_pos hoperator, isElementIn_cons_of_pos hoperator]
      exact ih h
    | false =>
      rw [isElementIn_cons_of_neg hoperator]
      cases hcollection : e.label.isCollection with
      | true => exact isFrozenIn_of_isCollection hcollection
      | false =>
        have htransparent : e.label.isTransparent = false := by
          rw [Label.isTransparent, hoperator, hcollection]
          rfl
        rw [isFrozenIn_cons_of_neg htransparent] at h
        rw [isFrozenIn_cons_of_neg hoperator, h]
        rfl

end Containers

/-! ### Values -/

/-- Values, by what can be changed in them: those without parts; tuples and frozen sets; lists and
sets. -/
inductive Object where
  | atom
  | fixed (parts : List Object)
  | mutable (parts : List Object)
  deriving Repr

namespace Object

/-- The parts that a value holds itself. -/
def parts : Object → List Object
  | atom => []
  | fixed parts | mutable parts => parts

def isMutable : Object → Bool
  | mutable _ => true
  | _ => false

/-- A value reaches itself, its parts, and what they reach. -/
def Reaches : Object → Object → Prop := Relation.ReflTransGen fun o p => p ∈ o.parts

/-- Nothing that the value reaches can be changed. -/
def IsImmutable (o : Object) : Prop := ∀ p, o.Reaches p → p.isMutable = false

theorem isImmutable_iff {o : Object} :
    o.IsImmutable ↔ o.isMutable = false ∧ ∀ p ∈ o.parts, p.IsImmutable := by
  constructor
  · intro h
    exact ⟨h o .refl, fun p hp q hq => h q (.head hp hq)⟩
  · rintro ⟨hitself, hparts⟩ q hq
    rcases Relation.ReflTransGen.cases_head hq with rfl | ⟨p, hp, hq⟩
    · exact hitself
    · exact hparts p hp q hq

/-- What an operation makes of its operands: its parts are theirs, and it can be changed only if one
of them can. -/
structure IsCombinationOf (o : Object) (operands : List Object) : Prop where
  parts : ∀ p ∈ o.parts, ∃ a ∈ operands, p ∈ a.parts
  mutable : o.isMutable = true → ∃ a ∈ operands, a.isMutable = true

/-- What a freezing call makes of its arguments: it cannot be changed, and its parts, unless they
have no parts, are theirs. -/
structure IsFrozenFrom (o : Object) (arguments : List Object) : Prop where
  parts : ∀ p ∈ o.parts, p = atom ∨ ∃ a ∈ arguments, p ∈ a.parts
  fixed : o.isMutable = false

end Object

/-- The values that an expression can have. Only what literals consist of has values here, and of
operations and freezing calls all those are admitted that hold nothing new. -/
inductive Tree.Gives : Tree → Object → Prop
  | constant {t : Tree} {c : Constant} (label : t.label = .constant c) : t.Gives .atom
  | tuple {t : Tree} {os : List Object} (label : t.label = .tuple)
      (elements : List.Forall₂ Gives (t.childrenAt .elts) os) : t.Gives (.fixed os)
  | list {t : Tree} {os : List Object} (label : t.label = .list)
      (elements : List.Forall₂ Gives (t.childrenAt .elts) os) : t.Gives (.mutable os)
  | set {t : Tree} {os os' : List Object} (label : t.label = .set)
      (elements : List.Forall₂ Gives (t.childrenAt .elts) os) (distinct : os' ⊆ os) :
      t.Gives (.mutable os')
  | operation {t : Tree} {os : List Object} {o : Object} (label : t.label.isOperator = true)
      (operands : List.Forall₂ Gives (t.children.filter (·.field != .op)) os)
      (combined : o.IsCombinationOf os) : t.Gives o
  | freezing {t : Tree} {os : List Object} {o : Object} (callee : t.isFreezingCall = true)
      (arguments : List.Forall₂ Gives (t.childrenAt .args) os)
      (frozen : o.IsFrozenFrom os) : t.Gives o

theorem exists_of_forall₂ {α β : Type} {R : α → β → Prop} {as : List α} {bs : List β}
    (h : List.Forall₂ R as bs) {b : β} (hb : b ∈ bs) : ∃ a ∈ as, R a b := by
  obtain ⟨i, hi, rfl⟩ := List.getElem_of_mem hb
  have hlen := h.length_eq
  exact ⟨as[i], List.getElem_mem _, h.get (hlen ▸ hi) hi⟩

section Values

variable {e c : Tree} {above : List Tree} {o : Object}

/-- Where containers are frozen through operators the parts of a value cannot be changed, and the
value only if it is to be frozen. -/
theorem isImmutable_of_gives (h : e.FreezesContainers Label.isOperator above) (ho : e.Gives o) :
    (∀ p ∈ o.parts, p.IsImmutable) ∧
      (o.isMutable = true → e.isFrozenIn Label.isOperator above = true) := by
  induction e using Tree.induct generalizing above o with
  | node f l s cs ih =>
    obtain ⟨hitself, hparts⟩ := freezesContainers_node_iff.mp h
    -- What the values of the parts may be depends on the expression as one that is above them.
    have hchild {p : Tree → Bool} {os : List Object}
        (hos : List.Forall₂ Tree.Gives (cs.filter p) os) (a : Object) (ha : a ∈ os) :
        ∃ c : Tree, (∀ p ∈ a.parts, p.IsImmutable) ∧ (a.isMutable = true →
          c.isFrozenIn Label.isOperator (Tree.node f l s cs :: above) = true) := by
      obtain ⟨c, hc, hgives⟩ := exists_of_forall₂ hos ha
      have hmem : c ∈ cs := (List.mem_filter.mp hc).1
      exact ⟨c, ih c hmem (hparts c hmem) hgives⟩
    have helements {os : List Object} (hl : l.isCollection = true)
        (hos : List.Forall₂ Tree.Gives (cs.filter (·.field == .elts)) os) :
        ∀ p ∈ os, p.IsImmutable := by
      intro p hp
      obtain ⟨c, hbelow, hmutable⟩ := hchild hos p hp
      rw [isFrozenIn_of_isCollection (show (Tree.node f l s cs).label.isCollection = true from hl)]
        at hmutable
      exact Object.isImmutable_iff.mpr ⟨by simpa using hmutable, hbelow⟩
    cases ho with
    | constant _ => exact ⟨nofun, nofun⟩
    | tuple hl hos =>
      obtain rfl : l = .tuple := hl
      exact ⟨helements rfl hos, nofun⟩
    | list hl hos =>
      obtain rfl : l = .list := hl
      exact ⟨helements rfl hos, fun _ => (hitself rfl).2⟩
    | set hl hos hdistinct =>
      obtain rfl : l = .set := hl
      exact ⟨fun p hp => helements rfl hos p (hdistinct hp), fun _ => (hitself rfl).2⟩
    | operation hl hos hcombined =>
      constructor
      · intro p hp
        obtain ⟨a, ha, hpa⟩ := hcombined.parts p hp
        obtain ⟨-, hbelow, -⟩ := hchild hos a ha
        exact hbelow p hpa
      · intro hmutable
        obtain ⟨a, ha, hmutable⟩ := hcombined.mutable hmutable
        obtain ⟨c, -, hfrozen⟩ := hchild hos a ha
        rw [← isFrozenIn_cons_of_pos hl]
        exact hfrozen hmutable
    | freezing hcall hos hfrozen =>
      constructor
      · intro p hp
        rcases hfrozen.parts p hp with rfl | ⟨a, ha, hpa⟩
        · exact Object.isImmutable_iff.mpr ⟨rfl, nofun⟩
        · obtain ⟨-, hbelow, -⟩ := hchild hos a ha
          exact hbelow p hpa
      · intro hmutable
        rw [hfrozen.fixed] at hmutable
        cases hmutable

/-- What holds of the containers that are made in an immutable literal. -/
structure Tree.IsSoundLiteral (e : Tree) : Prop where
  /-- They are lists and sets, each in an argument of a freezing call, below operators and displays
  only. -/
  frozen : e.FreezesContainers Label.isTransparent []
  /-- Each is such an argument itself, but for operators, exactly if none is an element of a
  display, -/
  exact : e.FreezesContainers Label.isOperator [] ↔ ∀ path d, e.at? path = some d →
    d.label.isMutableCollection = true → d.isElementIn (e.above path) = false
  /-- and then nothing in the value can be changed. -/
  immutable : e.FreezesContainers Label.isOperator [] → ∀ o, e.Gives o → o.IsImmutable

theorem isSoundLiteral (he : e.IsWellFormed) (h : isImmutableLiteral false e = true) :
    e.IsSoundLiteral := by
  obtain ⟨-, hfrozen⟩ := (isImmutableLiteral_iff he).mp h
  refine ⟨hfrozen, ⟨fun hoperator path d hat hd => ?_, fun hapart path d hat hd => ?_⟩, ?_⟩
  · have hmakes : d.label.makesContainer = true := by
      rw [Label.isMutableCollection_eq] at hd
      exact (Bool.and_eq_true_iff.mp hd).2
    obtain ⟨-, hthrough⟩ := hfrozen path d hat hmakes
    obtain ⟨-, hd⟩ := hoperator path d hat hmakes
    rw [isFrozenIn_isOperator hthrough, List.append_nil] at hd
    simpa using hd
  · obtain ⟨hmutable, hthrough⟩ := hfrozen path d hat hd
    refine ⟨hmutable, ?_⟩
    rw [isFrozenIn_isOperator hthrough, List.append_nil, hapart path d hat hmutable]
    rfl
  · intro hoperator o ho
    obtain ⟨hparts, hmutable⟩ := isImmutable_of_gives hoperator ho
    refine Object.isImmutable_iff.mpr ⟨?_, hparts⟩
    -- There is nothing above the literal by which its value is frozen.
    by_contra hitself
    cases hmutable (by simpa using hitself)

end Values

end Grader.Source
