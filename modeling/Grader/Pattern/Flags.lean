import Grader.Pattern.Reader

/-!
Options set inside a pattern: letters that are turned on, for the whole pattern or for one group,
and letters that are turned off for one group.
-/

namespace Grader.Pattern

/-- An option of a pattern. -/
inductive Flag where
  | ignoreCase | locale | multiline | dotAll | verbose | ascii | template | unicode
  deriving Repr, DecidableEq

namespace Flag

/-- The option of a letter. -/
def ofChar? (c : Char) : Option Flag :=
  if c = 'i' then some ignoreCase else if c = 'L' then some locale
  else if c = 'm' then some multiline else if c = 's' then some dotAll
  else if c = 'x' then some verbose else if c = 'a' then some ascii
  else if c = 't' then some template else if c = 'u' then some unicode else none

/-- Whether the option chooses the kind of characters that classes cover. -/
def isType (f : Flag) : Bool := f = ascii || f = locale || f = unicode

end Flag

inductive Options where
  /-- Options of the whole pattern. -/
  | whole (on : List Flag)
  /-- Options of one group. -/
  | grouped (on off : List Flag)
  deriving Repr

namespace Reader

/-- The option of the token that was read, or the complaint that something is missing. -/
def flagOf (what : String) : Option Token → Reader Flag
  | none => fail (.missing what)
  | some t =>
    match t with
    | .plain c =>
      match Flag.ofChar? c with
      | some f => return f
      | none => fail (if Text.isNameStart c && c != '_' then .unknownFlag else .missing what) 1
    | .escaped _ => fail (.missing what) 2

/-- Options that are turned on, up to a closing parenthesis, a hyphen or a colon, which is given
back too. `fuel` bounds the number of letters. -/
def flagsOn (on : List Flag) (f : Flag) : Nat → Reader (List Flag × Char)
  | 0 => fail (.missing "-, : or )")
  | fuel + 1 => do
    if f = .locale then fail .localeFlag
    let on := on ++ [f]
    if f.isType && on.any fun g => g.isType && g != f then fail .typeFlags
    let t ← take
    if t = some (.plain ')') then return (on, ')')
    else if t = some (.plain '-') then return (on, '-')
    else if t = some (.plain ':') then return (on, ':')
    else flagsOn on (← flagOf "-, : or )" t) fuel

/-- Options that are turned off, up to a colon. `fuel` bounds the number of letters. -/
def flagsOff (off : List Flag) (f : Flag) : Nat → Reader (List Flag)
  | 0 => fail (.missing ":")
  | fuel + 1 => do
    if f.isType then fail .typeFlagsOff
    let off := off ++ [f]
    let t ← take
    if t = some (.plain ':') then return off
    else flagsOff off (← flagOf ":" t) fuel

/-- The options behind an opening parenthesis and question mark, the first letter of which was
read; none when a hyphen was read instead. -/
def options (first : Option Flag) : Reader Options := do
  let fuel := (← get).rest.length + 1
  let (on, stop) ← match first with
    | some f => flagsOn [] f fuel
    | none => pure ([], '-')
  if stop = ')' then return .whole on
  if on.contains .template then fail .globalFlagOn 1
  let off ← if stop = '-' then flagsOff [] (← flagOf "flag" (← take)) fuel else pure []
  if off.contains .template then fail .globalFlagOff 1
  if on.any off.contains then fail .flagOnAndOff 1
  return .grouped on off

/-- Sets options of the whole pattern. -/
def setWhole (on : List Flag) : Reader Unit :=
  modify fun p =>
    { p with
      verbose := p.verbose || on.contains .verbose
      ascii := p.ascii || on.contains .ascii
      unicode := p.unicode || on.contains .unicode }

end Reader

end Grader.Pattern
