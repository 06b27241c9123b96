import Grader.Failure
import Grader.Text.Blank
import Grader.Text.Lines

/-!
Checks and registries of checks with distinct names, in the order in which they were added.
-/

namespace Grader

/-- A check: its name, what it is about, and what it does. -/
structure Check (α : Type) where
  name : String
  description : String
  body : α
  deriving Repr

/-- A routine that may become a check: what it does, its own name if it has one, and what its
author says about it. -/
structure Routine (α : Type) where
  body : α
  name : Option String := none
  doc : Option String := none
  deriving Repr

/-- Checks with distinct names. -/
structure Registry (α : Type) where
  checks : List (Check α) := []
  nodup_names : (checks.map (·.name)).Nodup := by simp

namespace Registry

variable {α : Type}

/-- The names of the checks, in order. -/
def names (r : Registry α) : List String := r.checks.map (·.name)

/-- The number of checks. -/
def size (r : Registry α) : Nat := r.checks.length

def taken (name : String) : Failure := .value s!"Check {name} already registered"

/-- Adds a check at the end. -/
def register (r : Registry α) (c : Check α) : Except Failure (Registry α) :=
  if h : c.name ∈ r.checks.map (·.name) then .error (taken c.name)
  else .ok ⟨r.checks ++ [c], by
    simp only [List.map_append, List.map_cons, List.map_nil]
    exact List.nodup_append.2 ⟨r.nodup_names, by simp, by
      intro a ha b hb
      simp only [List.mem_singleton] at hb
      exact fun hab => h (hb ▸ hab ▸ ha)⟩⟩

/-- The registry of checks, added one by one. -/
def ofChecks (cs : List (Check α)) : Except Failure (Registry α) := cs.foldlM register {}

def nonEmpty (s : Option String) : Option String := s.filter (· != "")

/-- The first line of what the author says, blanks around it all dropped. -/
def firstLine (doc : Option String) : Option String :=
  (Text.lines (Text.strip (doc.getD ""))).head?

/-- The name of a check: a given one, that of its routine, or one made of its number. -/
def nameOf (r : Registry α) (routine : Routine α) (name : Option String) : String :=
  ((nonEmpty name) <|> (nonEmpty routine.name)).getD s!"check_{r.size + 1}"

/-- The check that a routine becomes. Without a description, the first line of what the author says
describes it, or else its name. -/
def checkOf (r : Registry α) (routine : Routine α) (name description : Option String) : Check α :=
  let name := r.nameOf routine name
  ⟨name, ((nonEmpty description) <|> (firstLine routine.doc)).getD name, routine.body⟩

def add (r : Registry α) (routine : Routine α) (name description : Option String) :
    Except Failure (Registry α × Check α) :=
  let c := r.checkOf routine name description
  (r.register c).map fun r => (r, c)

/-- Adds a routine as its decorator does, which leaves its author the routine. -/
def decorate (r : Registry α) (description name : Option String) (routine : Routine α) :
    Except Failure (Registry α × Routine α) :=
  (r.add routine name description).map fun (r, _) => (r, routine)

end Registry

end Grader
