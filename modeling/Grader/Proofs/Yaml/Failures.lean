import Grader.Proofs.Ordinary
import Grader.Yaml.Load

/-! How reading a document fails. Whatever a text holds, its value is made or a plain failure
says why not: one of the language's own, or what a tag makes of a text that does not have its
form. -/

namespace Grader.Yaml

theorem ordinary_malformed {α : Type} : Ordinary (α := α) (.error malformed) :=
  .error (.of_reach rfl)

theorem ordinary_digitsIn (base : Nat) (cs : List Char) : Ordinary (digitsIn base cs) := by
  unfold digitsIn
  split
  · exact .ok _
  · exact .error (.of_reach rfl)

theorem ordinary_integerOf (text : List Char) : Ordinary (integerOf text) := by
  unfold integerOf
  simp only
  generalize (Decimal.splitSign _).2 = body
  refine .map ?_
  split
  · exact .ok _
  · exact ordinary_digitsIn _ _
  · exact ordinary_digitsIn _ _
  · exact ordinary_digitsIn _ _
  · exact .error (.of_reach rfl)
  · split
    · exact .foldlM (fun _ _ => (ordinary_digitsIn _ _).map) _ _
    · exact ordinary_digitsIn _ _

theorem ordinary_magnitudeOf (cs : List Char) : Ordinary (magnitudeOf cs) := by
  unfold magnitudeOf
  split
  · exact .ok _
  · exact .error (.of_reach rfl)

theorem ordinary_sixtieths (base : Float) (pieces : List (List Char)) :
    Ordinary (sixtieths base pieces) := by
  induction pieces generalizing base with
  | nil => exact .ok _
  | cons p rest ih =>
    rw [sixtieths]
    exact (ordinary_magnitudeOf p).bind fun _ _ => (ih _).bind fun _ _ => .ok _

theorem ordinary_floatOf (text : List Char) : Ordinary (floatOf text) := by
  unfold floatOf
  refine .map ?_
  split_ifs
  · exact .ok _
  · exact .ok _
  · exact ordinary_sixtieths _ _
  · exact ordinary_magnitudeOf _

theorem ordinary_truthOf (text : List Char) : Ordinary (truthOf text) := by
  unfold truthOf
  simp only
  split_ifs
  · exact .ok _
  · exact .ok _
  · exact .error (.of_reach rfl)

theorem ordinary_binaryOf (text : List Char) : Ordinary (binaryOf text) := by
  unfold binaryOf
  split
  · exact ordinary_malformed
  · split
    · exact .ok _
    · exact ordinary_malformed

theorem ordinary_momentValue (m : Resolved.MomentParts) : Ordinary (Resolved.momentValue m) := by
  unfold Resolved.momentValue
  split
  · exact .error (.of_reach rfl)
  · simp only
    split
    · exact .ok _
    · split
      · exact .error (.of_reach rfl)
      · exact .ok _

theorem ordinary_scalarValue (tag : String) (text : List Char) :
    Ordinary (scalarValue tag text) := by
  unfold scalarValue
  split_ifs
  · exact .ok _
  · exact (ordinary_truthOf text).map
  · exact (ordinary_integerOf text).map
  · exact (ordinary_floatOf text).map
  · exact .ok _
  · exact (ordinary_binaryOf text).map
  · split
    · exact ordinary_momentValue _
    · exact .error (.of_reach rfl)
  · exact ordinary_malformed

theorem ordinary_scalarText (n : Node) : Ordinary (scalarText n) := by
  unfold scalarText
  split
  · exact .ok _
  · split
    · exact .ok _
    · exact ordinary_malformed
  · exact ordinary_malformed

theorem ordinary_pairOf (n : Node) : Ordinary (pairOf n) := by
  unfold pairOf
  split
  · exact .ok _
  · exact ordinary_malformed

theorem ordinary_flatten (fuel : Nat) (entries : List (Node × Node)) :
    Ordinary (flatten fuel entries) := by
  induction fuel generalizing entries with
  | zero => exact ordinary_malformed
  | succ fuel ih =>
    rw [flatten]
    refine .bind (.mapM fun e _ => ?_) fun _ _ => .ok _
    split
    · exact ih _
    · refine .bind (.mapM fun n _ => ?_) fun _ _ => .ok _
      split
      · exact ih _
      · exact ordinary_malformed
    · exact ordinary_malformed

/-- Going through what is a mapping always gives its keys. -/
theorem ordinary_items_dictOf (entries : List (Value × Value)) :
    Ordinary (Value.dictOf entries).items? := .ok _

theorem ordinary_construct (fuel : Nat) (n : Node) : Ordinary (construct fuel n) := by
  induction fuel generalizing n with
  | zero => exact ordinary_malformed
  | succ fuel ih =>
    unfold construct
    simp only
    split
    · -- A sequence.
      split
      · exact .map (.mapM fun n _ => ih n)
      · exact ordinary_malformed
    · split
      · -- A mapping or a set, the entries of which may be taken over from others.
        split
        · refine (ordinary_flatten _ _).bind fun es _ =>
            .bind (.mapM fun e _ => ?_) fun pairs _ => ?_
          · refine (ih e.1).bind fun k _ => ?_
            split
            · exact ordinary_malformed.bind fun _ _ => (ih e.2).bind fun _ _ => .ok _
            · exact (ih e.2).bind fun _ _ => .ok _
          · split
            · exact .ok _
            · exact .map (ordinary_items_dictOf pairs)
        · exact ordinary_malformed
      · split
        · -- Pairs in an order of their own.
          split
          · refine .bind (.mapM fun n _ => ?_) fun _ _ => .ok _
            exact (ordinary_pairOf n).bind fun e _ => (ih e.1).bind fun _ _ =>
              (ih e.2).bind fun _ _ => .ok _
          · exact ordinary_malformed
        · exact (ordinary_scalarText n).bind fun text _ => ordinary_scalarValue _ text

/-- Reading a document fails by ordinary failures only. -/
theorem ordinary_load (text : List Char) : Ordinary (load text) := by
  unfold load
  simp only
  split
  · exact ordinary_malformed
  · exact .ok _
  · exact ordinary_construct _ _

end Grader.Yaml
