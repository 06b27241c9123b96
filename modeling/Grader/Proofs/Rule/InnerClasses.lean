import Mathlib
import Grader.Rule.Catalogue
import Grader.Proofs.Source.Scope
import Grader.Proofs.Source.Descent

/-!
Inner classes. The rule reports the classes whose scope is not a module and the members of these
classes: the fields, methods and constructors that have such a class as their own scope. As a node
has one scope, and one kind, nothing is reported twice, however deeply classes are nested.
-/

namespace Grader.Rule

open Source

/-- What the rule reports: an inner class, or a member of one. -/
inductive InnerReport where
  | ofClass (cls : Node)
  | ofMember (cls member : Node)

namespace InnerReport

/-- The node that is reported. -/
def node : InnerReport → Node
  | ofClass cls => cls
  | ofMember _ member => member

/-- A report as it is found: a member is named with its kind and with its owner. -/
def finding (u : SourceUnit) : InnerReport → Finding
  | ofClass cls => at' u cls s!"Inner classes are not allowed: {cls.name}"
  | ofMember cls member => at' u member
      s!"Inner classes are not allowed: {member.kind.text} {member.name} of {cls.name}"

/-- The reports that are due: a class whose scope is not a module, and whatever is declared in the
scope of such a class. -/
inductive IsDue (u : SourceUnit) (t : Tree) : InnerReport → Prop
  | ofClass {cls : Node} {s : List Nat} {scope : Tree} : cls ∈ u.nodes → cls.kind = .classDef →
      t.NearestScope cls.path s → t.at? s = some scope → scope.label ≠ .module →
        IsDue u t (.ofClass cls)
  | ofMember {cls member : Node} : IsDue u t (.ofClass cls) → member ∈ u.nodes →
      member.kind ∈ [Kind.field, .method, .constructor] →
      t.NearestScope member.path cls.path → IsDue u t (.ofMember cls member)

end InnerReport

/-- Whether a node is a class whose scope is not a module. -/
def isInnerClass (n : Node) : Bool := n.kind == .classDef && n.scope.any (·.label != .module)

/-- The inner classes of a unit with what is reported of each: the class and then its members. -/
def innerReports (u : SourceUnit) : List InnerReport :=
  (u.nodes.filter isInnerClass).flatMap fun cls =>
    .ofClass cls :: (u.nodes.filter (isMemberOf cls)).map (.ofMember cls)

section Tree

variable {t : Tree} {n m cls : Node}

theorem isInnerClass_iff (hn : n ∈ nodes t) : isInnerClass n = true ↔ n.kind = .classDef ∧
    ∃ s scope, t.NearestScope n.path s ∧ t.at? s = some scope ∧ scope.label ≠ .module := by
  obtain ⟨hat, habove⟩ := faithful_of_mem_nodes hn
  rw [isInnerClass, Node.scope, habove, Bool.and_eq_true, beq_iff_eq]
  refine and_congr_right fun _ => ?_
  rw [Option.any_eq_true]
  constructor
  · rintro ⟨scope, hscope, hlabel⟩
    obtain ⟨s, hs, hat'⟩ := (Tree.scopeIn_above hat).mp hscope
    exact ⟨s, scope, hs, hat', by simpa using hlabel⟩
  · rintro ⟨s, scope, hs, hat', hlabel⟩
    exact ⟨scope, (Tree.scopeIn_above hat).mpr ⟨s, hs, hat'⟩, by simpa using hlabel⟩

theorem isMemberOf_iff (hm : m ∈ nodes t) : isMemberOf cls m = true ↔
    m.kind ∈ [Kind.field, .method, .constructor] ∧ t.NearestScope m.path cls.path := by
  obtain ⟨hat, habove⟩ := faithful_of_mem_nodes hm
  rw [isMemberOf, Bool.and_eq_true, List.contains_iff_mem, beq_iff_eq, Node.scopePath, habove,
    Tree.scopePathIn_above hat]

theorem kind_ne_of_isMemberOf (h : isMemberOf cls m = true) :
    m.kind ≠ .typeRef ∧ m.kind ≠ .classDef := by
  have hkind := List.contains_iff_mem.mp (Bool.and_eq_true_iff.mp h).1
  constructor <;>
  · intro heq
    rw [heq] at hkind
    simp at hkind

/-- The members that a class sees below itself are those that the unit shows. -/
theorem filter_children_isMemberOf (hcls : cls ∈ nodes t) :
    (cls.children none).filter (isMemberOf cls) = (nodes t).filter (isMemberOf cls) := by
  -- Members are no type references, and these are all that children may lack.
  have hsplit : (cls.children none).filter (isMemberOf cls) =
      ((cls.children none).filter (·.kind ≠ .typeRef)).filter (isMemberOf cls) := by
    rw [List.filter_filter]
    refine List.filter_congr fun m _ => ?_
    cases h : isMemberOf cls m with
    | false => rfl
    | true => simp [(kind_ne_of_isMemberOf h).1]
  rw [hsplit, filter_children_eq hcls, List.filter_filter]
  refine List.filter_congr fun m hm => ?_
  cases h : isMemberOf cls m with
  | false => rfl
  | true =>
    have habove := ((isMemberOf_iff hm).mp h).2.above
    simp [habove, (kind_ne_of_isMemberOf h).1]

end Tree

/-- What only some items of a list contribute. -/
theorem flatMap_if {α β : Type} (p : α → Bool) (f : α → List β) (l : List α) :
    (l.flatMap fun a => if p a then f a else []) = (l.filter p).flatMap f := by
  induction l with
  | nil => rfl
  | cons a l ih =>
    rw [List.flatMap_cons, ih]
    cases hp : p a <;> simp [hp]

section Unit

variable {u : SourceUnit} {t : Tree}

/-- What is found is what is reported. -/
theorem innerClassFindings_eq (h : u.tree? = some t) (p : Policy) :
    innerClassFindings u p = (innerReports u).map (InnerReport.finding u) := by
  have hnodes := SourceUnit.nodes_eq h
  -- The rule selects classes and then asks for their scopes.
  have hclasses : u.nodes.filter isInnerClass =
      (u.select .classDef).filter fun n => n.scope.any (·.label != .module) := by
    rw [SourceUnit.select_eq_filter h, List.filter_filter]
    exact List.filter_congr fun n _ => Bool.and_comm _ _
  rw [innerReports, hclasses, ← flatMap_if, List.map_flatMap, innerClassFindings]
  refine List.flatMap_congr fun n hn => ?_
  have hn' : n ∈ nodes t := by
    rw [SourceUnit.select_eq_filter h, hnodes] at hn
    exact (List.mem_filter.mp hn).1
  rw [filter_children_isMemberOf hn', ← hnodes]
  cases n.scope with
  | none => rfl
  | some scope =>
    by_cases hlabel : scope.label = .module
    · simp [hlabel]
    · simp [hlabel, InnerReport.finding]

theorem isDue_ofClass_iff (h : u.tree? = some t) {cls : Node} :
    InnerReport.IsDue u t (.ofClass cls) ↔ cls ∈ u.nodes.filter isInnerClass := by
  have hnodes := SourceUnit.nodes_eq h
  rw [List.mem_filter]
  constructor
  · rintro (⟨hcls, hkind, hs, hat, hlabel⟩ | _)
    exact ⟨hcls, (isInnerClass_iff (hnodes ▸ hcls)).mpr ⟨hkind, _, _, hs, hat, hlabel⟩⟩
  · rintro ⟨hcls, hinner⟩
    obtain ⟨hkind, s, scope, hs, hat, hlabel⟩ := (isInnerClass_iff (hnodes ▸ hcls)).mp hinner
    exact .ofClass hcls hkind hs hat hlabel

theorem isDue_ofMember_iff (h : u.tree? = some t) {cls m : Node} :
    InnerReport.IsDue u t (.ofMember cls m) ↔
      cls ∈ u.nodes.filter isInnerClass ∧ m ∈ u.nodes.filter (isMemberOf cls) := by
  have hnodes := SourceUnit.nodes_eq h
  rw [← isDue_ofClass_iff h, List.mem_filter]
  constructor
  · rintro (_ | ⟨hcls, hm, hkind, hscope⟩)
    exact ⟨hcls, hm, (isMemberOf_iff (hnodes ▸ hm)).mpr ⟨hkind, hscope⟩⟩
  · rintro ⟨hcls, hm, hmember⟩
    obtain ⟨hkind, hscope⟩ := (isMemberOf_iff (hnodes ▸ hm)).mp hmember
    exact .ofMember hcls hm hkind hscope

theorem mem_innerReports (h : u.tree? = some t) {r : InnerReport} :
    r ∈ innerReports u ↔ r.IsDue u t := by
  rw [innerReports, List.mem_flatMap]
  constructor
  · rintro ⟨cls, hcls, hr⟩
    rcases List.mem_cons.mp hr with rfl | hr
    · exact (isDue_ofClass_iff h).mpr hcls
    · obtain ⟨m, hm, rfl⟩ := List.mem_map.mp hr
      exact (isDue_ofMember_iff h).mpr ⟨hcls, hm⟩
  · intro hdue
    cases r with
    | ofClass cls => exact ⟨cls, (isDue_ofClass_iff h).mp hdue, List.mem_cons_self⟩
    | ofMember cls m =>
      obtain ⟨hcls, hm⟩ := (isDue_ofMember_iff h).mp hdue
      exact ⟨cls, hcls, List.mem_cons_of_mem _ (List.mem_map_of_mem hm)⟩

/-- A node is reported in one way: it has one kind, and one scope that could own it. -/
theorem InnerReport.IsDue.eq_of_path_eq (h : u.tree? = some t) {r r' : InnerReport}
    (hr : r.IsDue u t) (hr' : r'.IsDue u t) (hpath : r.node.path = r'.node.path) : r = r' := by
  have hsame {n m : Node} (hn : n ∈ u.nodes) (hm : m ∈ u.nodes) (hpath : n.path = m.path) :
      n = m := by
    rw [SourceUnit.nodes_eq h] at hn hm
    exact eq_of_mem_nodes hn hm hpath
  cases hr with
  | ofClass hcls hkind =>
    cases hr' with
    | ofClass hcls' => rw [hsame hcls hcls' hpath]
    | ofMember _ hm hkind' =>
      -- Classes are no members, not even of the classes around them.
      rw [← hsame hcls hm hpath, hkind] at hkind'
      simp at hkind'
  | ofMember hdue hm hkind hscope =>
    cases hr' with
    | ofClass hcls' hkind' =>
      rw [hsame hm hcls' hpath, hkind'] at hkind
      simp at hkind
    | ofMember hdue' hm' _ hscope' =>
      obtain rfl := hsame hm hm' hpath
      cases hdue with
      | ofClass hcls =>
        cases hdue' with
        | ofClass hcls' => rw [hsame hcls hcls' (hscope.unique hscope')]

theorem nodup_innerReports (h : u.tree? = some t) : (innerReports u).Nodup := by
  have hnodup : u.nodes.Nodup := (SourceUnit.shows_tree h).once.of_map
  rw [innerReports, List.nodup_flatMap]
  constructor
  · intro cls _
    rw [List.nodup_cons]
    refine ⟨by simp, (hnodup.filter _).map fun m m' hm => ?_⟩
    exact (InnerReport.ofMember.inj hm).2
  · -- What is reported with a class names the class.
    refine (hnodup.filter _).pairwise_of_forall_ne fun cls _ cls' _ hne => ?_
    intro r hr hr'
    rcases List.mem_cons.mp hr with rfl | hr
    · rcases List.mem_cons.mp hr' with heq | hr'
      · exact hne (InnerReport.ofClass.inj heq)
      · simp at hr'
    · obtain ⟨m, -, rfl⟩ := List.mem_map.mp hr
      simp [Ne.symm hne] at hr'

/-- The reports of a unit are those that are due, each of them once. -/
structure ReportsInnerClasses (u : SourceUnit) (t : Tree) (reports : List InnerReport) : Prop where
  /-- Inner classes are reported, and so are their members, as the members of their own scope; -/
  exact : ∀ r, r ∈ reports ↔ r.IsDue u t
  /-- no node is reported twice, as a class or as a member; -/
  once : (reports.map (·.node.path)).Nodup
  /-- a class is followed by all of its members in document order; -/
  followed : ∀ cls, .ofClass cls ∈ reports → ∃ members : List Node, members.Sublist u.nodes ∧
    (∀ m, m ∈ members ↔ .ofMember cls m ∈ reports) ∧
    .ofClass cls :: members.map (.ofMember cls) <:+: reports
  /-- and what lies in another scope inside a class is no member of the class. -/
  own : ∀ cls m, .ofMember cls m ∈ reports → ∀ q v, t.at? q = some v →
    v.label.isScope = true → IsAbove cls.path q → ¬ IsAbove q m.path

theorem reportsInnerClasses (h : u.tree? = some t) :
    ReportsInnerClasses u t (innerReports u) where
  exact _ := mem_innerReports h
  once := (nodup_innerReports h).map_on fun r hr r' hr' hpath =>
    ((mem_innerReports h).mp hr).eq_of_path_eq h ((mem_innerReports h).mp hr') hpath
  followed cls hcls := by
    have hclass := (isDue_ofClass_iff h).mp ((mem_innerReports h).mp hcls)
    refine ⟨u.nodes.filter (isMemberOf cls), List.filter_sublist, fun m => ?_, ?_⟩
    · rw [mem_innerReports h, isDue_ofMember_iff h]
      exact (and_iff_right hclass).symm
    · rw [innerReports, List.flatMap_def]
      exact List.infix_of_mem_flatten (List.mem_map.mpr ⟨cls, hclass, rfl⟩)
  own cls m hm q v hat hscope hbelow habove := by
    obtain ⟨⟩ | ⟨-, -, -, hnearest⟩ := (mem_innerReports h).mp hm
    have hsuf := hnearest.deepest q habove ⟨v, hat, hscope⟩
    exact absurd hsuf.length_le (not_le.mpr hbelow.length_lt)

/-- The violations of the rule are the reports of inner classes and of their members. -/
theorem inner_classes_reported (u : SourceUnit) (t : Tree) (h : u.tree? = some t) (p : Policy) :
    (ofName .innerClasses).check u p = ⟨(innerReports u).map fun r =>
        (r.finding u).violation RuleName.innerClasses.text .ordinary u, none⟩ ∧
      ReportsInnerClasses u t (innerReports u) := by
  refine ⟨?_, reportsInnerClasses h⟩
  change (⟨(innerClassFindings u p).map _, none⟩ : Yield) = _
  rw [innerClassFindings_eq h, List.map_map]
  rfl

/-- A class in a function, with a field and a method, and a class in the method:

    def f():
        class A:
            x = 1
            def m():
                y = 2
                class B: z = 3
-/
def innerTree : Tree :=
  let assign (line column : Nat) (name : String) : Tree :=
    .node .body .assign (some ⟨line, column⟩) [
      .node .targets (.name name) (some ⟨line, column⟩) [],
      .node .value (.constant (.number false)) (some ⟨line, column + 4⟩) []]
  .node .root .module none [
    .node .body (.functionDef "f") (some ⟨1, 0⟩) [
      .node .args .arguments none [],
      .node .body (.classDef "A") (some ⟨2, 4⟩) [
        assign 3 8 "x",
        .node .body (.functionDef "m") (some ⟨4, 8⟩) [
          .node .args .arguments none [],
          assign 5 12 "y",
          .node .body (.classDef "B") (some ⟨6, 12⟩) [assign 6 21 "z"]]]]]

def innerUnit : SourceUnit := ⟨"inner.py", .parsed innerTree⟩

/-- The outer class comes with its field and its method, then the inner one with its field; the
variable in the method is nobody's member. -/
theorem inner_classes_reported_nested :
    innerUnit.tree? = some innerTree ∧
      (innerReports innerUnit).map (·.node.path) =
        [[1, 0], [0, 1, 0], [1, 1, 0], [2, 1, 1, 0], [0, 2, 1, 1, 0]] ∧
      ((ofName .innerClasses).check innerUnit Policy.standard).violations.length = 5 ∧
      ReportsInnerClasses innerUnit innerTree (innerReports innerUnit) := by
  obtain ⟨hcheck, hreports⟩ := inner_classes_reported innerUnit innerTree rfl Policy.standard
  refine ⟨rfl, by decide, ?_, hreports⟩
  rw [hcheck]
  decide

end Unit

end Grader.Rule
