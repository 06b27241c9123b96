/-!
References to checks: the module they are in and, after a colon, the attribute of it that lists
them.
-/

namespace Grader

structure Reference where
  target : String
  exported : String
  deriving Repr, DecidableEq

namespace Reference

/-- The attribute of a reference that names none. -/
def defaultExport : String := "checks"

/-- What stands before and after the last colon; `none` when there is no colon. -/
def splitLast : List Char → Option (List Char × List Char)
  | [] => none
  | c :: rest =>
    match splitLast rest with
    | some (before, after) => some (c :: before, after)
    | none => if c = ':' then some ([], rest) else none

/-- Reads a reference. A target of a single character is no target, since it may be a drive. -/
def ofText (s : String) : Reference :=
  match splitLast s.toList with
  | none => ⟨s, defaultExport⟩
  | some (target, name) =>
    if target.length = 1 then ⟨s, defaultExport⟩
    else ⟨String.ofList target, if name = [] then defaultExport else String.ofList name⟩

/-- Writes a reference. -/
def text (r : Reference) : String := r.target ++ ":" ++ r.exported

end Reference

end Grader
