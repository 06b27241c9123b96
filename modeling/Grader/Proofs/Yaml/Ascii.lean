import Grader.Proofs.Decimal.Written
import Grader.Proofs.Text.Ascii
import Grader.Yaml.Write

/-! Documents are text of ASCII, whatever is written: plain and quoted text only stands where all of
its characters are printable, and everything else is escaped. -/

namespace Grader

open Text (IsAscii)

namespace Decimal

theorem toNat_lt_of_isNumberChar {c : Char} (h : isNumberChar c = true) : c.toNat < 0x80 := by
  simp only [isNumberChar, Bool.or_eq_true, beq_iff_eq] at h
  rcases h with (((hdigit | rfl) | rfl) | rfl) | rfl
  · have hle : c.toNat ≤ '9'.toNat := (Char.isDigit_iff_toNat.mp hdigit).2
    exact Nat.lt_of_le_of_lt hle (by decide)
  all_goals decide

theorem isAscii_toString (n : Int) : IsAscii (toString n).toList :=
  fun c hc => toNat_lt_of_isNumberChar (List.all_eq_true.mp (all_toString n) c hc)

theorem isAscii_write (x : Float) : IsAscii (document.write x).toList := by
  intro c hc
  have hinfinity : IsAscii document.infinity.toList := by simp [document]
  have hundefined : IsAscii document.undefined.toList := by simp [document]
  rcases mem_write hc with hnumber | hword | hword
  · exact toNat_lt_of_isNumberChar hnumber
  · exact hinfinity c hword
  · exact hundefined c hword

end Decimal

namespace Yaml

theorem toNat_lt_of_le {c : Char} (h : c ≤ '~') : c.toNat < 0x80 :=
  Nat.lt_of_le_of_lt (UInt32.le_iff_toNat_le.mp h) (by decide)

namespace TextForm

theorem toNat_lt_of_isPlainChar {c : Char} (h : isPlainChar c = true) : c.toNat < 0x80 := by
  rcases Bool.or_eq_true_iff.mp h with hfeed | hshown
  · rw [beq_iff_eq.mp hfeed]
    decide
  · exact toNat_lt_of_le (by simpa using (Bool.and_eq_true_iff.mp hshown).2)

theorem special_scan (previous : Char) (f : TextForm) (cs : List Char) :
    (scan previous f cs).special = (f.special || cs.any fun c => !isPlainChar c) := by
  induction cs generalizing previous f with
  | nil => simp [scan]
  | cons c cs ih =>
    rw [scan, ih]
    simp [Bool.or_assoc]

theorem special_ofText (cs : List Char) :
    (ofText cs).special = cs.any fun c => !isPlainChar c := by
  cases cs with
  | nil => rfl
  | cons c cs =>
    unfold ofText
    rw [special_scan]
    rfl

/-- A text without special characters is one of ASCII. -/
theorem isAscii_of_special {cs : List Char} (h : (ofText cs).special = false) : IsAscii cs := by
  rw [special_ofText, List.any_eq_false] at h
  intro c hc
  exact toNat_lt_of_isPlainChar (by simpa using h c hc)

end TextForm

namespace Writing

variable {w : Writing} {cs : List Char}

theorem isAscii_put (hw : IsAscii w.back) (hcs : IsAscii cs) : IsAscii (w.put cs).back := by
  unfold put
  simp [hw, hcs]

theorem isAscii_newLine (hw : IsAscii w.back) : IsAscii w.newLine.back := by
  unfold newLine
  simp [hw]

theorem isAscii_pad (hw : IsAscii w.back) (column : Nat) : IsAscii (w.pad column).back :=
  isAscii_put hw (.replicate _ (by decide))

theorem isAscii_fold (hw : IsAscii w.back) (column : Nat) : IsAscii (w.fold column).back :=
  isAscii_pad (isAscii_newLine hw) column

end Writing

theorem flatten_runs (cs : List Char) : (runs cs).flatten = cs := by
  unfold runs
  induction cs with
  | nil => rfl
  | cons c cs ih =>
    rw [List.foldr_cons]
    generalize List.foldr _ [] cs = acc at ih ⊢
    subst ih
    split
    · split <;> rfl
    · rfl

theorem isAscii_of_mem_runs {cs run : List Char} (h : IsAscii cs) (hrun : run ∈ runs cs) :
    IsAscii run := by
  refine h.of_subset fun c hc => ?_
  rw [← flatten_runs cs]
  exact List.mem_flatten.mpr ⟨run, hrun, hc⟩

section Writing

open Writing

variable {w : Writing} {cs : List Char}

theorem isAscii_foldl_newLine (run : List Char) (hw : IsAscii w.back) :
    IsAscii (run.foldl (fun w _ => w.newLine) w).back := by
  induction run generalizing w with
  | nil => exact hw
  | cons c run ih => exact ih (isAscii_newLine hw)

theorem isAscii_writeRuns {quote : List Char → List Char}
    (hquote : ∀ run, IsAscii run → IsAscii (quote run)) (indent : Nat) (first : Bool)
    (hw : IsAscii w.back) {rs : List (List Char)} (hrs : ∀ run ∈ rs, IsAscii run) :
    IsAscii (writeRuns indent quote first w rs).back := by
  -- Every run of blanks, line feeds or other characters is put behind what is written already.
  induction rs generalizing first w with
  | nil => exact hw
  | cons run rs ih =>
    obtain ⟨hrun, hrs⟩ := List.forall_mem_cons.mp hrs
    refine ih _ ?_ hrs
    split
    · split
      · exact isAscii_fold hw _
      · exact isAscii_put hw hrun
    · split
      · refine isAscii_pad (isAscii_foldl_newLine _ ?_) _
        split
        · exact isAscii_newLine hw
        · exact hw
      · exact isAscii_put hw (hquote _ hrun)
    · exact hw

theorem isAscii_writePlain (indent : Nat) (hw : IsAscii w.back) (hcs : IsAscii cs) :
    IsAscii (writePlain indent w cs).back :=
  isAscii_writeRuns (fun _ h => h) _ _ hw fun _ => isAscii_of_mem_runs hcs

theorem isAscii_writeSingle (indent : Nat) (hw : IsAscii w.back) (hcs : IsAscii cs) :
    IsAscii (writeSingle indent w cs).back := by
  have hdouble (run : List Char) (h : IsAscii run) :
      IsAscii (run.flatMap fun c => if c == '\'' then ['\'', '\''] else [c]) := by
    intro c hc
    obtain ⟨d, hd, hcd⟩ := List.mem_flatMap.mp hc
    split at hcd
    · simp only [List.mem_cons, List.not_mem_nil, or_false, or_self] at hcd
      rw [hcd]
      decide
    · rw [List.mem_singleton.mp hcd]
      exact h d hd
  have hstart : IsAscii (w.put ['\'']).back := isAscii_put hw (by simp)
  exact isAscii_put (isAscii_writeRuns hdouble _ _ hstart fun _ => isAscii_of_mem_runs hcs) (by simp)

theorem isAscii_upperHex (width n : Nat) : IsAscii (upperHex width n) := by
  have hdigit : ∀ d < 16, (upperHexChar d).toNat < 0x80 := by decide
  induction width generalizing n with
  | zero => exact .nil
  | succ width ih =>
    rw [upperHex, Text.IsAscii.append_iff]
    exact ⟨ih _, by simpa using hdigit _ (Nat.mod_lt n (by decide))⟩

/-- What does not stand for itself is escaped by characters of ASCII. -/
theorem isAscii_escaped {c : Char} {e : List Char} (h : escaped? c = some e) : IsAscii e := by
  have hletters : ∀ p ∈ escapeLetters, p.2.toNat < 0x80 := by decide
  unfold escaped? at h
  split at h
  · cases h
  · split at h
    · rename_i letter hfind
      cases h
      simpa using hletters _ (List.mem_of_find?_eq_some hfind)
    · cases h
      split
      · simp [isAscii_upperHex]
      · split <;> simp [isAscii_upperHex]

theorem toNat_lt_of_escaped_eq_none {c : Char} (h : escaped? c = none) : c.toNat < 0x80 := by
  unfold escaped? at h
  split at h
  · rename_i hshown
    exact toNat_lt_of_le (by simpa using (Bool.and_eq_true_iff.mp hshown).2)
  · split at h <;> cases h

theorem isAscii_writeDoubleRest (indent : Nat) (inside : Bool) (hw : IsAscii w.back)
    {pending : List Char} (hpending : IsAscii pending) :
    IsAscii (writeDoubleRest indent inside w pending cs).back := by
  -- Characters that stand for themselves are pending until one is escaped or the line is folded.
  induction cs generalizing inside w pending with
  | nil => exact isAscii_put hw (Text.IsAscii.reverse_iff.mpr hpending)
  | cons c cs ih =>
    have hback : IsAscii pending.reverse := Text.IsAscii.reverse_iff.mpr hpending
    have hmore : IsAscii (pending.reverse ++ ['\\']) := by simp [hpending]
    cases hescaped : escaped? c with
    | none =>
      have hc := toNat_lt_of_escaped_eq_none hescaped
      simp only [writeDoubleRest, hescaped, Bool.false_eq_true, if_false]
      split
      · refine ih _ ?_ (by simpa using hc)
        split
        · exact isAscii_put (isAscii_fold (isAscii_put hw hmore) _) (by simp)
        · exact isAscii_fold (isAscii_put hw hmore) _
      · exact ih _ hw (Text.IsAscii.cons_iff.mpr ⟨hc, hpending⟩)
    | some e =>
      have hwritten := isAscii_put (isAscii_put hw hback) (isAscii_escaped hescaped)
      simp only [writeDoubleRest, hescaped, if_true]
      split
      · refine ih _ ?_ .nil
        split
        · exact isAscii_put (isAscii_fold (isAscii_put hwritten (by simp)) _) (by simp)
        · exact isAscii_fold (isAscii_put hwritten (by simp)) _
      · exact ih _ hwritten .nil

theorem isAscii_writeDouble (indent : Nat) (hw : IsAscii w.back) :
    IsAscii (writeDouble indent w cs).back :=
  isAscii_put (isAscii_writeDoubleRest _ _ (isAscii_put hw (by simp)) .nil) (by simp)

theorem isAscii_writeText (indent : Nat) (hw : IsAscii w.back) :
    IsAscii (writeText indent w cs).back := by
  unfold writeText
  simp only
  split
  · rename_i hplain
    have hspecial : (TextForm.ofText cs).special = false := by
      simp only [TextForm.allowsPlain, Bool.and_eq_true, Bool.not_eq_true', Bool.or_eq_false_iff]
        at hplain
      exact hplain.1.2.1.1.1.2
    exact isAscii_writePlain _ hw (TextForm.isAscii_of_special hspecial)
  · split
    · rename_i hsingle
      have hspecial : (TextForm.ofText cs).special = false := by
        simp only [TextForm.allowsSingle, Bool.not_eq_true', Bool.or_eq_false_iff] at hsingle
        exact hsingle.1.1
      exact isAscii_writeSingle _ hw (TextForm.isAscii_of_special hspecial)
    · exact isAscii_writeDouble _ hw

end Writing

/-- The values that documents give the text of: texts, numbers, truth values and nothing. -/
def IsScalar : Value → Prop
  | .str _ | .int _ | .float _ | .bool _ | .none => True
  | _ => False

/-- The values that documents are written of. -/
inductive IsDocument : Value → Prop
  | scalar {v : Value} (h : IsScalar v) : IsDocument v
  | items {xs : List Value} (h : ∀ x ∈ xs, IsScalar x) : IsDocument (.list xs)
  | entries {es : List (Value × Value)} (hkeys : ∀ e ∈ es, IsScalar e.1)
    (hvalues : ∀ e ∈ es, IsDocument e.2) : IsDocument (.dict es)

section Document

open Writing

variable {w : Writing}

theorem isAscii_writeScalar (indent : Nat) (hw : IsAscii w.back) {v : Value} (hv : IsScalar v) :
    IsAscii (writeScalar indent w v).back := by
  cases v with
  | none => exact isAscii_put hw (by simp)
  | bool b => cases b <;> exact isAscii_put hw (by simp)
  | int n => exact isAscii_put hw (Decimal.isAscii_toString n)
  | float x => exact isAscii_put hw (Decimal.isAscii_write x)
  | str s => exact isAscii_writeText _ hw
  | _ => exact hv.elim

theorem isAscii_writeItems (indent : Nat) (hw : IsAscii w.back) {xs : List Value}
    (hxs : ∀ x ∈ xs, IsScalar x) : IsAscii (writeItems indent w xs).back := by
  unfold writeItems
  induction xs generalizing w with
  | nil => exact hw
  | cons x xs ih =>
    obtain ⟨hx, hxs⟩ := List.forall_mem_cons.mp hxs
    have hstart : IsAscii ((w.pad indent).put ['-', ' ']).back :=
      isAscii_put (isAscii_pad hw indent) (by simp)
    exact ih (isAscii_newLine (isAscii_writeScalar _ hstart hx)) hxs

theorem isAscii_writeEntries (indent : Nat) (hw : IsAscii w.back) {es : List (Value × Value)}
    (hkeys : ∀ e ∈ es, IsScalar e.1)
    (hvalues : ∀ e ∈ es, ∀ (indent : Nat) (w : Writing), IsAscii w.back →
      IsAscii (writeValue indent w e.2).back) :
    IsAscii (writeEntries indent w es).back := by
  induction es generalizing w with
  | nil => exact hw
  | cons e es ih =>
    obtain ⟨hkey, hkeys⟩ := List.forall_mem_cons.mp hkeys
    obtain ⟨hvalue, hvalues⟩ := List.forall_mem_cons.mp hvalues
    have hname := isAscii_writeScalar (indent + 2) (isAscii_pad hw indent) hkey
    exact ih (hvalue _ _ (isAscii_put hname (by simp))) hkeys hvalues

theorem writeValue_of_isScalar (indent : Nat) (w : Writing) {v : Value} (hv : IsScalar v) :
    writeValue indent w v = (writeScalar (indent + 2) (w.put [' ']) v).newLine := by
  cases v with
  | dict es => exact hv.elim
  | list xs => exact hv.elim
  | _ => rfl

theorem isAscii_writeValue {v : Value} (hv : IsDocument v) (indent : Nat) (w : Writing)
    (hw : IsAscii w.back) : IsAscii (writeValue indent w v).back := by
  induction hv generalizing indent w with
  | scalar h =>
    rw [writeValue_of_isScalar indent w h]
    exact isAscii_newLine (isAscii_writeScalar _ (isAscii_put hw (by simp)) h)
  | items h =>
    rw [writeValue]
    split
    · exact isAscii_newLine (isAscii_put hw (by simp))
    · exact isAscii_writeItems _ (isAscii_newLine hw) h
  | entries hkeys _ ih =>
    rw [writeValue]
    split
    · exact isAscii_newLine (isAscii_put hw (by simp))
    · exact isAscii_writeEntries _ (isAscii_newLine hw) hkeys ih

/-- The document of a mapping is text of ASCII. -/
theorem isAscii_write {es : List (Value × Value)} (hv : IsDocument (.dict es)) :
    IsAscii (write (.dict es)).toList := by
  have hwritten : IsAscii (writeEntries 0 { column := 0 } es).back := by
    cases hv with
    | scalar h => exact h.elim
    | entries hkeys hvalues =>
      exact isAscii_writeEntries 0 .nil hkeys fun e he => isAscii_writeValue (hvalues e he)
  have htext : (write (.dict es)).toList =
      (writeEntries 0 { column := 0 } es).back.reverse := String.toList_ofList
  rw [htext, Text.IsAscii.reverse_iff]
  exact hwritten

end Document

end Yaml

end Grader
