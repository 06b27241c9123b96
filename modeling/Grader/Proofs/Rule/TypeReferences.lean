import Mathlib
import Grader.Rule.Catalogue
import Grader.Proofs.Source.Names
import Grader.Proofs.Source.Annotation

/-!
Type references. They are the names in annotations, each with what the outermost annotation around
it annotates. The rule on collections reports those outside of fields that name an abstract type.
-/

namespace Grader

open Source

namespace Source

/-- A name or an attribute that is no step of a longer name and that lies in an annotation with this
role. -/
structure Tree.IsTypeReference (t : Tree) (path : List Nat) (r : Role) : Prop where
  /-- It is a name or an attribute, -/
  reference : ∃ v, t.at? path = some v ∧ v.label.isReference = true
  /-- it is not what an attribute belongs to, -/
  longest : ∀ i p parent, path = i :: p → t.at? p = some parent → parent.label.isMember = false
  /-- and the outermost annotation around it has the role. -/
  annotated : t.Annotated path r

section Nodes

variable {t : Tree} {path : List Nat} {r : Role} {n : Node}

theorem isTypeReference_iff : t.IsTypeReference path r ↔
    ∃ v, t.at? path = some v ∧ v.label.isReference = true ∧
      (t.above path).head?.any (·.label.isMember) = false ∧ t.Annotated path r := by
  constructor
  · rintro ⟨⟨v, hv, href⟩, hlongest, hannotated⟩
    refine ⟨v, hv, href, ?_, hannotated⟩
    cases path with
    | nil => rfl
    | cons i p =>
      obtain ⟨parent, hparent, -⟩ := Tree.at?_cons_eq_some.mp hv
      rw [Tree.above_cons hparent]
      exact hlongest i p parent rfl hparent
  · rintro ⟨v, hv, href, hhead, hannotated⟩
    refine ⟨⟨v, hv, href⟩, ?_, hannotated⟩
    rintro i p parent rfl hparent
    rwa [Tree.above_cons hparent] at hhead

/-- A type reference has a role, and it is called by what it spells. -/
theorem typeRef_of_mem_nodes (hn : n ∈ nodes t) (hkind : n.kind = .typeRef) :
    (∃ r, n.role = some r) ∧ n.name = dottedOrEmpty n.tree := by
  obtain ⟨o, -, hnode⟩ := List.mem_filterMap.mp hn
  obtain ⟨-, href, -, r, -, hr⟩ := (node?_eq_typeRef_iff hkind).mp hnode
  refine ⟨⟨r, hr⟩, ?_⟩
  rcases Label.isReference_iff.mp href with ⟨id, hl⟩ | ⟨attr, hl⟩ <;>
    simp [Node.name, hkind, hl, Label.definedName]

end Nodes

end Source

namespace SourceUnit

/-- The type references that a unit shows of the tree of its text. -/
structure ShowsTypeReferences (u : SourceUnit) (t : Tree) : Prop where
  /-- They are the names in annotations, with what the outermost annotation annotates; -/
  exact : ∀ path r, (∃ n ∈ u.select .typeRef, n.path = path ∧ n.role = some r) ↔
    t.IsTypeReference path r
  /-- none of them is outside of every annotation, and each has a role. -/
  inside : ∀ n ∈ u.select .typeRef, ∃ r, n.role = some r ∧ ∃ s, s <:+ n.path ∧ t.Annotates s r
  /-- They are called by what they spell, -/
  named : ∀ n ∈ u.select .typeRef, ∀ s, n.tree.Spells s → n.name = s
  /-- and by nothing if they spell nothing, -/
  unnamed : ∀ n ∈ u.select .typeRef, (∀ s, ¬ n.tree.Spells s) → n.name = ""
  /-- and none of them comes twice. -/
  once : ((u.select .typeRef).map (·.path)).Nodup

variable {u : SourceUnit} {t : Tree} {n : Node}

theorem mem_select_typeRef (h : u.tree? = some t) :
    n ∈ u.select .typeRef ↔ n ∈ Source.nodes t ∧ n.kind = .typeRef := by
  rw [select_eq_filter h, nodes_eq h, List.mem_filter]
  simp [Kind.covers]

theorem showsTypeReferences (h : u.tree? = some t) : u.ShowsTypeReferences t := by
  have hexact (path : List Nat) (r : Role) :
      (∃ n ∈ u.select .typeRef, n.path = path ∧ n.role = some r) ↔ t.IsTypeReference path r := by
    rw [isTypeReference_iff, ← exists_typeRef_iff]
    refine exists_congr fun n => ?_
    rw [mem_select_typeRef h]
    tauto
  have hname {n : Node} (hn : n ∈ u.select .typeRef) :
      (∃ r, n.role = some r) ∧ n.name = dottedOrEmpty n.tree := by
    obtain ⟨hn, hkind⟩ := (mem_select_typeRef h).mp hn
    exact typeRef_of_mem_nodes hn hkind
  exact {
    exact := hexact
    inside := by
      intro n hn
      obtain ⟨⟨r, hr⟩, -⟩ := hname hn
      obtain ⟨-, -, s, hs, hannotates, -⟩ := (hexact n.path r).mp ⟨n, hn, rfl, hr⟩
      exact ⟨r, hr, s, hs, hannotates⟩
    named := by
      intro n hn s hs
      rw [(hname hn).2, dottedOrEmpty, dottedName_eq_some_iff.mpr hs]
      rfl
    unnamed := by
      intro n hn hno
      have hnone : dottedName n.tree = none :=
        Option.eq_none_iff_forall_ne_some.mpr fun s hs => hno s (dottedName_eq_some_iff.mp hs)
      rw [(hname hn).2, dottedOrEmpty, hnone]
      rfl
    once := nodup_paths_select h .typeRef }

end SourceUnit

namespace Rule

/-- The type references that name an abstract collection, those of fields aside. -/
def collectionReports (u : SourceUnit) (p : Policy) : List Node :=
  (u.select .typeRef).filter fun n => n.role ≠ some .field ∧
    Text.Dotted.lastSegment n.name ∈ p.lists .abstractCollections

/-- A report as it is found, with what the annotation annotates. -/
def collectionFinding (u : SourceUnit) (n : Node) : Finding :=
  let site := n.role.elim "" Role.text ++ " type"
  at' u n s!"Use a concrete collection instead of {n.name} as {site}"

/-- The reports of abstract collections are those that are due, each of them once. -/
structure ReportsCollections (u : SourceUnit) (p : Policy) (reports : List Node) : Prop where
  /-- Reported are the type references outside of fields with an abstract collection as the last
  segment of their names, -/
  exact : ∀ n, n ∈ reports ↔ n ∈ u.select .typeRef ∧ n.role ≠ some .field ∧
    ∃ s ∈ p.lists .abstractCollections, Text.Dotted.IsLastSegment n.name s
  /-- none of them twice, -/
  once : (reports.map (·.path)).Nodup
  /-- and all in document order. -/
  in_order : reports.Sublist u.nodes

section Unit

variable {u : SourceUnit} {t : Tree}

theorem siteText_some (r : Role) :
    siteText (some r) = if r = .field then none else some (r.text ++ " type") := by
  cases r <;> rfl

/-- What is found is what is reported. -/
theorem collectionFindings_eq (h : u.tree? = some t) (p : Policy) :
    collectionFindings u p = (collectionReports u p).map (collectionFinding u) := by
  rw [collectionReports, collectionFindings, ← List.filterMap_eq_map, List.filterMap_filter]
  refine List.filterMap_congr fun n hn => ?_
  obtain ⟨r, hr, -⟩ := (SourceUnit.showsTypeReferences h).inside n hn
  -- As it has a role, the reference has a site unless it belongs to a field.
  rw [hr, siteText_some]
  by_cases hfield : r = .field
  · simp [hfield]
  · simp [hfield, collectionFinding, hr]

theorem reportsCollections (h : u.tree? = some t) (p : Policy) :
    ReportsCollections u p (collectionReports u p) where
  exact n := by
    simp [collectionReports, ← Text.Dotted.lastSegment_eq_iff]
  once := (SourceUnit.nodup_paths_select h .typeRef).sublist (List.filter_sublist.map _)
  in_order := List.filter_sublist.trans (SourceUnit.select_sublist_nodes h .typeRef)

/-- The type references of a unit are the names in its annotations, and the violations of the rule
are the reports of abstract collections among them. -/
theorem type_references_reported (u : SourceUnit) (t : Tree) (h : u.tree? = some t) (p : Policy) :
    u.ShowsTypeReferences t ∧
      (ofName .collectionInterfaces).check u p = ⟨(collectionReports u p).map fun n =>
        (collectionFinding u n).violation RuleName.collectionInterfaces.text .ordinary u, none⟩ ∧
      ReportsCollections u p (collectionReports u p) := by
  refine ⟨SourceUnit.showsTypeReferences h, ?_, reportsCollections h p⟩
  change (⟨(collectionFindings u p).map _, none⟩ : Yield) = _
  rw [collectionFindings_eq h, List.map_map]
  rfl

/-- Annotations of a field, of a parameter with a default, and behind an arrow:

    z: Mapping
    def f(a: x.Sequence = Mapping) -> List[Iterable]: pass
-/
def hintedTree : Tree :=
  .node .root .module none [
    .node .body .annAssign (some ⟨1, 0⟩) [
      .node .target (.name "z") (some ⟨1, 0⟩) [],
      .node .typeHint (.name "Mapping") (some ⟨1, 3⟩) []],
    .node .body (.functionDef "f") (some ⟨2, 0⟩) [
      .node .args .arguments none [
        .node .args (.arg "a") (some ⟨2, 6⟩) [
          .node .typeHint (.member "Sequence") (some ⟨2, 9⟩) [
            .node .value (.name "x") (some ⟨2, 9⟩) []]],
        .node .defaults (.name "Mapping") (some ⟨2, 22⟩) []],
      .node .body .pass (some ⟨2, 50⟩) [],
      .node .returns .subscript (some ⟨2, 34⟩) [
        .node .value (.name "List") (some ⟨2, 34⟩) [],
        .node .slice (.name "Iterable") (some ⟨2, 39⟩) []]]]

def hintedUnit : SourceUnit := ⟨"hinted.py", .parsed hintedTree⟩

/-- The four names in the annotations are type references and the default is none; reported are the
parameter and what is behind the arrow, but not the field. -/
theorem type_references_reported_hinted :
    hintedUnit.tree? = some hintedTree ∧ hintedUnit.ShowsTypeReferences hintedTree ∧
      (hintedUnit.select .typeRef).map (fun n => (n.path, n.role)) =
        [([1, 0], some .field), ([0, 0, 0, 1], some .parameter), ([0, 2, 1], some .returned),
          ([1, 2, 1], some .returned)] ∧
      ((ofName .collectionInterfaces).check hintedUnit Policy.standard).violations.map (·.message) =
        ["Use a concrete collection instead of x.Sequence as parameter type",
          "Use a concrete collection instead of Iterable as return type"] := by
  obtain ⟨hshows, hcheck, -⟩ :=
    type_references_reported hintedUnit hintedTree rfl Policy.standard
  refine ⟨rfl, hshows, by decide, ?_⟩
  rw [hcheck]
  decide

end Unit

end Rule

end Grader
