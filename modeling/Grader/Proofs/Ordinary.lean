import Grader.Proofs.Failure

/-! Operations that fail by plain failures only: ordinary ones that have a text. The property is
kept by everything that operations are put together with. -/

namespace Grader

variable {α β ε : Type}

/-- Whatever the operation fails with is a plain failure. -/
def Ordinary (x : Except Failure α) : Prop := ∀ f, x = .error f → f.Plain

namespace Ordinary

theorem ok (a : α) : Ordinary (.ok a) := fun _ h => nomatch h

theorem error {f : Failure} (h : f.Plain) : Ordinary (α := α) (.error f) := by
  rintro _ ⟨⟩
  exact h

theorem bind {x : Except Failure α} {f : α → Except Failure β} (hx : Ordinary x)
    (hf : ∀ a, x = .ok a → Ordinary (f a)) : Ordinary (x >>= f) := by
  intro e h
  rcases Traversal.bind_eq_error_iff.mp h with h | ⟨a, ha, h⟩
  · exact hx e h
  · exact hf a ha e h

theorem map {x : Except Failure α} {f : α → β} (hx : Ordinary x) : Ordinary (x.map f) :=
  fun e h => hx e (Traversal.map_eq_error_iff.mp h)

theorem mapError {x : Except ε α} {f : ε → Failure}
    (hf : ∀ e, x = .error e → (f e).Plain) : Ordinary (x.mapError f) := by
  intro _ h
  obtain ⟨e, he, rfl⟩ := Traversal.mapError_eq_error_iff.mp h
  exact hf e he

theorem mapM {f : α → Except Failure β} {l : List α} (hf : ∀ a ∈ l, Ordinary (f a)) :
    Ordinary (l.mapM f) := by
  intro e h
  obtain ⟨a, ha, hfail⟩ := Traversal.exists_of_mapM_eq_error h
  exact hf a ha e hfail

theorem foldlM {f : β → α → Except Failure β} (hf : ∀ b a, Ordinary (f b a)) (l : List α)
    (b : β) : Ordinary (l.foldlM f b) := by
  intro e h
  obtain ⟨b, a, -, hfail⟩ := Traversal.exists_of_foldlM_eq_error h
  exact hf b a e hfail

end Ordinary

end Grader
