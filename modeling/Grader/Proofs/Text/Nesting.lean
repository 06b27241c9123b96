import Grader.Text.Quoted
import Mathlib

/-! Nested text. A reader keeps the depth of the brackets that are open and knows whether it is
within a quoted text. A text that takes it from every depth back to the same one, with separators
only between brackets of its own, ends where the next separator stands: it can be told from what
follows. -/

namespace Grader.Text

inductive Reader where
  | outside (depth : Nat)
  | inside (mark : Char) (depth : Nat)
  /-- Behind a backslash. -/
  | escaped (mark : Char) (depth : Nat)

namespace Reader

def isOpening (c : Char) : Bool := c == '(' || c == '[' || c == '\x7b'

def isClosing (c : Char) : Bool := c == ')' || c == ']' || c == '\x7d'

def isMark (c : Char) : Bool := c == '\'' || c == '"'

def isSeparator (c : Char) : Bool := c == ',' || c == ':'

/-- The reader stops at a separator and at a closing bracket that no bracket is open for. -/
def next : Reader → Char → Option Reader
  | outside d, c =>
    if isMark c then some (inside c d)
    else if isOpening c then some (outside (d + 1))
    else if isClosing c then (match d with | 0 => none | d + 1 => some (outside d))
    else if isSeparator c && d == 0 then none
    else some (outside d)
  | inside m d, c =>
    some (if c = m then outside d else if c = '\\' then escaped m d else inside m d)
  | escaped m d, _ => some (inside m d)

def readAll (r : Reader) (cs : List Char) : Option Reader := cs.foldlM next r

theorem readAll_append (r : Reader) (cs ds : List Char) :
    r.readAll (cs ++ ds) = (r.readAll cs).bind (·.readAll ds) :=
  List.foldlM_append

theorem readAll_cons (r : Reader) (c : Char) (cs : List Char) :
    r.readAll (c :: cs) = (r.next c).bind (·.readAll cs) :=
  List.foldlM_cons

theorem readAll_nil (r : Reader) : r.readAll [] = some r := rfl

/-- Within a quoted text the reader comes back to where it is, however long the text goes on. -/
theorem readAll_flatMap {r : Reader} {f : Char → List Char} {cs : List Char}
    (h : ∀ c ∈ cs, r.readAll (f c) = some r) : r.readAll (cs.flatMap f) = some r := by
  induction cs with
  | nil => rfl
  | cons c cs ih =>
    obtain ⟨hc, hcs⟩ := List.forall_mem_cons.mp h
    rw [List.flatMap_cons, readAll_append, hc]
    exact ih hcs

end Reader

open Reader

/-- The text leaves a reader outside of quotes where it is, within brackets. -/
def IsNested (cs : List Char) : Prop :=
  ∀ d, (outside (d + 1)).readAll cs = some (outside (d + 1))

/-- The text leaves a reader outside of quotes where it is, at every depth. -/
def IsClosed (cs : List Char) : Prop := ∀ d, (outside d).readAll cs = some (outside d)

/-- What follows a text: nothing, or something that begins with a separator. -/
def IsApart (cs : List Char) : Prop := ∀ c ∈ cs.head?, isSeparator c = true

theorem IsClosed.isNested {cs : List Char} (h : IsClosed cs) : IsNested cs := fun d => h (d + 1)

theorem IsNested.nil : IsNested [] := fun _ => rfl

theorem IsNested.append {cs ds : List Char} (hcs : IsNested cs) (hds : IsNested ds) :
    IsNested (cs ++ ds) := by
  intro d
  rw [readAll_append, hcs d]
  exact hds d

/-- Brackets around nested text close it. -/
theorem IsNested.enclosed {a b : Char} {cs : List Char} (h : IsNested cs)
    (ha : isOpening a = true ∧ isMark a = false)
    (hb : isClosing b = true ∧ isMark b = false ∧ isOpening b = false) :
    IsClosed (a :: cs ++ [b]) := by
  intro d
  have hopen : (outside d).next a = some (outside (d + 1)) := by simp [next, ha.1, ha.2]
  have hclose : (outside (d + 1)).next b = some (outside d) := by
    simp [next, hb.1, hb.2.1, hb.2.2]
  calc (outside d).readAll (a :: cs ++ [b])
      = ((outside (d + 1)).readAll cs).bind (·.readAll [b]) := by
        rw [List.cons_append, readAll_cons, hopen, Option.bind_some, readAll_append]
    _ = (outside (d + 1)).readAll [b] := by rw [h d, Option.bind_some]
    _ = some (outside d) := by rw [readAll_cons, hclose, Option.bind_some, readAll_nil]

/-- Characters that are no brackets, marks or separators. -/
def isPlain (c : Char) : Bool := !(isOpening c || isClosing c || isMark c || isSeparator c)

theorem isClosed_of_isPlain {cs : List Char} (h : cs.all isPlain = true) : IsClosed cs := by
  intro d
  induction cs with
  | nil => rfl
  | cons c cs ih =>
    rw [List.all_cons, Bool.and_eq_true] at h
    have hread : (outside d).next c = some (outside d) := by
      have hc := h.1
      simp only [isPlain, Bool.not_eq_true', Bool.or_eq_false_iff] at hc
      simp [next, hc.1.1.1, hc.1.1.2, hc.1.2, hc.2]
    rw [readAll_cons, hread]
    exact ih h.2

theorem isApart_nil : IsApart [] := fun _ hc => by cases hc

theorem isApart_cons {c : Char} (h : isSeparator c = true) (cs : List Char) :
    IsApart (c :: cs) := by
  intro a ha
  cases ha
  exact h

theorem IsApart.of_append {cs ds : List Char} (h : IsApart (cs ++ ds)) : IsApart cs := by
  cases cs with
  | nil => exact isApart_nil
  | cons c cs => exact isApart_cons (h c rfl) cs

theorem Reader.next_separator {c : Char} (h : isSeparator c = true) :
    (outside 0).next c = none := by
  rcases Bool.or_eq_true_iff.mp h with h | h <;> rw [beq_iff_eq.mp h] <;> rfl

/-- A closed text does not go on with a separator. -/
theorem IsClosed.eq_nil_of_append {cs tail : List Char} (hcs : IsClosed cs)
    (hwhole : IsClosed (cs ++ tail)) (hapart : IsApart tail) : tail = [] := by
  cases tail with
  | nil => rfl
  | cons c tail =>
    -- A reader comes out of `cs` at depth zero, where it stops at the separator.
    have hread := hwhole 0
    rw [readAll_append, hcs 0, Option.bind_some, readAll_cons, next_separator (hapart c rfl)]
      at hread
    cases hread

/-- Closed texts with what is apart from them are equal only if the texts are. -/
theorem IsClosed.append_inj {cs ds rest rest' : List Char} (hcs : IsClosed cs) (hds : IsClosed ds)
    (hrest : IsApart rest) (hrest' : IsApart rest') (h : cs ++ rest = ds ++ rest') :
    cs = ds ∧ rest = rest' := by
  -- The longer one of the texts is the shorter one and the front of what follows on that.
  rcases List.append_eq_append_iff.mp h with ⟨tail, rfl, rfl⟩ | ⟨tail, rfl, rfl⟩
  · obtain rfl : tail = [] := hcs.eq_nil_of_append hds hrest.of_append
    exact ⟨(List.append_nil cs).symm, rfl⟩
  · obtain rfl : tail = [] := hds.eq_nil_of_append hcs hrest'.of_append
    exact ⟨List.append_nil ds, rfl⟩

namespace Quoted

/-- Hexadecimal digits neither end a quoted text nor escape what follows. -/
theorem readAll_hex {m : Char} (hm : isMark m = true) (d width n : Nat) :
    (inside m d).readAll (hex width n) = some (inside m d) := by
  have hdigit : ∀ k < 16, isMark (hexChar k) = false ∧ hexChar k ≠ '\\' := by decide
  induction width generalizing n with
  | zero => rfl
  | succ width ih =>
    obtain ⟨hmark, hslash⟩ := hdigit (n % 16) (Nat.mod_lt n (by decide))
    have hne : hexChar (n % 16) ≠ m := by
      intro heq
      rw [heq, hm] at hmark
      cases hmark
    rw [hex, readAll_append, ih, Option.bind_some, readAll_cons]
    simp [next, hne, hslash, readAll_nil]

theorem readAll_escape {m : Char} (hm : isMark m = true) (d : Nat) (c : Char) :
    (inside m d).readAll (escape m c) = some (inside m d) := by
  have hslash : '\\' ≠ m := by
    rintro rfl
    cases hm
  -- A backslash takes the reader behind it, from where every character takes it back.
  have hescaped (c : Char) (cs : List Char) :
      (inside m d).readAll ('\\' :: c :: cs) = (inside m d).readAll cs := by
    simp [readAll_cons, next, hslash]
  unfold escape
  split_ifs with hspecial
  · exact hescaped c []
  · exact hescaped 'n' []
  · exact hescaped 'r' []
  · exact hescaped 't' []
  · simp only [Bool.or_eq_true, decide_eq_true_eq, not_or] at hspecial
    simp [readAll_cons, readAll_nil, next, hspecial.1, hspecial.2]
  all_goals
    rw [hescaped]
    exact readAll_hex hm d _ _

theorem isClosed_encode (cs : List Char) : IsClosed (encode cs) := by
  intro d
  have hm : isMark (mark cs) = true := by
    unfold mark
    split <;> rfl
  have hstart : (outside d).next (mark cs) = some (inside (mark cs) d) := by simp [next, hm]
  have hend : (inside (mark cs) d).next (mark cs) = some (outside d) := by simp [next]
  simp only [encode]
  rw [List.cons_append, readAll_cons, hstart, Option.bind_some, readAll_append,
    readAll_flatMap fun c _ => readAll_escape hm d c, Option.bind_some, readAll_cons, hend]
  rfl

end Quoted

end Grader.Text
