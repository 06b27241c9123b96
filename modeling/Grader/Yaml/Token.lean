/-!
The tokens of a document. Block structure is given by tokens that start and end blocks.
-/

namespace Grader.Yaml

/-- A tag as it is written: a handle, if it has one, and a suffix. -/
structure WrittenTag where
  handle : Option String
  suffix : String
  deriving Repr, DecidableEq

inductive Token where
  /-- A directive that states the version of the format, by its major number. -/
  | version (major : Nat)
  /-- A directive that declares a tag handle. -/
  | handle (name uri : String)
  | otherDirective
  | documentStart | documentEnd
  | blockSequenceStart | blockMappingStart | blockEnd
  | flowSequenceStart | flowSequenceEnd | flowMappingStart | flowMappingEnd
  | blockEntry | flowEntry | key | value
  | aliasTo (name : String) | anchor (name : String) | tag (t : WrittenTag)
  /-- A scalar; `plain` says that it is not quoted. -/
  | scalar (text : List Char) (plain : Bool)
  deriving Repr, DecidableEq

end Grader.Yaml
