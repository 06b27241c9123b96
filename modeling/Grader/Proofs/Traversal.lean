import Mathlib

/-! Traversals of lists by operations that may fail: when they succeed, and with what. -/

namespace Grader.Traversal

variable {α β γ ε : Type}

theorem bind_eq_ok_iff {x : Except ε α} {f : α → Except ε β} {b : β} :
    x >>= f = .ok b ↔ ∃ a, x = .ok a ∧ f a = .ok b := by
  cases x with
  | error e => simp [bind, Except.bind]
  | ok a => simp [bind, Except.bind]

theorem map_eq_ok_iff {x : Except ε α} {f : α → β} {b : β} :
    x.map f = .ok b ↔ ∃ a, x = .ok a ∧ b = f a := by
  cases x with
  | error e => simp [Except.map]
  | ok a => simp [Except.map, eq_comm]

theorem bind_eq_error_iff {x : Except ε α} {f : α → Except ε β} {e : ε} :
    x >>= f = .error e ↔ x = .error e ∨ ∃ a, x = .ok a ∧ f a = .error e := by
  cases x with
  | error e => simp [bind, Except.bind]
  | ok a => simp [bind, Except.bind]

theorem map_eq_error_iff {x : Except ε α} {f : α → β} {e : ε} :
    x.map f = .error e ↔ x = .error e := by
  cases x with
  | error e => simp [Except.map]
  | ok a => simp [Except.map]

theorem mapError_eq_ok_iff {ε' : Type} {x : Except ε α} {f : ε → ε'} {a : α} :
    x.mapError f = .ok a ↔ x = .ok a := by
  cases x <;> simp [Except.mapError]

theorem mapError_eq_error_iff {ε' : Type} {x : Except ε α} {f : ε → ε'} {e' : ε'} :
    x.mapError f = .error e' ↔ ∃ e, x = .error e ∧ e' = f e := by
  cases x <;> simp [Except.mapError, eq_comm]

/-- A traversal that fails does so at one of the items. -/
theorem exists_of_mapM_eq_error {f : α → Except ε β} {l : List α} {e : ε}
    (h : l.mapM f = .error e) : ∃ a ∈ l, f a = .error e := by
  induction l with
  | nil => cases h
  | cons a l ih =>
    rw [List.mapM_cons, bind_eq_error_iff] at h
    rcases h with ha | ⟨b, -, h⟩
    · exact ⟨a, List.mem_cons_self, ha⟩
    · rw [bind_eq_error_iff] at h
      rcases h with hl | ⟨bs, -, h⟩
      · obtain ⟨x, hx, hfail⟩ := ih hl
        exact ⟨x, List.mem_cons_of_mem a hx, hfail⟩
      · cases h

/-- A fold that fails does so at one of the items, with what it has come to by then. -/
theorem exists_of_foldlM_eq_error {f : β → α → Except ε β} {l : List α} {b : β} {e : ε}
    (h : l.foldlM f b = .error e) : ∃ b, ∃ a ∈ l, f b a = .error e := by
  induction l generalizing b with
  | nil => cases h
  | cons a l ih =>
    rw [List.foldlM_cons, bind_eq_error_iff] at h
    rcases h with ha | ⟨b', -, h⟩
    · exact ⟨b, a, List.mem_cons_self, ha⟩
    · obtain ⟨b, x, hx, hfail⟩ := ih h
      exact ⟨b, x, List.mem_cons_of_mem a hx, hfail⟩

/-- A traversal by an operation that gives the values of a function, where it succeeds, succeeds
exactly when the operation does so for every item. -/
theorem mapM_eq_ok_iff {f : α → Except ε β} {g : α → β} {l : List α}
    (hg : ∀ a ∈ l, ∀ b, f a = .ok b → b = g a) {out : List β} :
    l.mapM f = .ok out ↔ (∀ a ∈ l, f a = .ok (g a)) ∧ out = l.map g := by
  induction l generalizing out with
  | nil => simp [pure, Except.pure, eq_comm]
  | cons a l ih =>
    have hl := @ih (fun b hb => hg b (List.mem_cons_of_mem a hb))
    rw [List.mapM_cons, bind_eq_ok_iff]
    simp only [bind_eq_ok_iff, hl, pure, Except.pure, Except.ok.injEq]
    constructor
    · -- The first item can only have given what the function says.
      rintro ⟨b, hb, bs, ⟨hbs, rfl⟩, rfl⟩
      obtain rfl := hg a List.mem_cons_self b hb
      exact ⟨List.forall_mem_cons.mpr ⟨hb, hbs⟩, rfl⟩
    · rintro ⟨h, rfl⟩
      obtain ⟨ha, hbs⟩ := List.forall_mem_cons.mp h
      exact ⟨g a, ha, l.map g, ⟨hbs, rfl⟩, rfl⟩

/-- A traversal gives what the operation gives for the items, in their order. -/
theorem mapM_eq_ok_iff_forall₂ {f : α → Except ε β} {l : List α} {out : List β} :
    l.mapM f = .ok out ↔ List.Forall₂ (fun a b => f a = .ok b) l out := by
  induction l generalizing out with
  | nil => simp [pure, Except.pure, eq_comm]
  | cons a l ih =>
    rw [List.mapM_cons, bind_eq_ok_iff, List.forall₂_cons_left_iff]
    simp only [bind_eq_ok_iff, ih, pure, Except.pure, Except.ok.injEq]
    constructor
    · rintro ⟨b, hb, bs, hbs, rfl⟩
      exact ⟨b, bs, hb, hbs, rfl⟩
    · rintro ⟨b, bs, hb, hbs, rfl⟩
      exact ⟨b, hb, bs, hbs, rfl⟩

/-- Something that can be computed of a success shows that there is one. -/
theorem exists_ok_of_any {x : Except ε α} {q : α → Bool} (h : x.toOption.any q = true) :
    ∃ a, x = .ok a ∧ q a = true := by
  cases x with
  | ok a => exact ⟨a, rfl, h⟩
  | error e => cases h

theorem exists_of_mapM_eq_ok {f : α → Except ε β} {l : List α} {out : List β}
    (h : l.mapM f = .ok out) : ∀ a ∈ l, ∃ b, f a = .ok b := by
  have hall : List.Forall₂ (fun a b => (∃ b, f a = .ok b) ∧ f a = .ok b) l out :=
    (mapM_eq_ok_iff_forall₂.mp h).imp fun _ b hb => ⟨⟨b, hb⟩, hb⟩
  exact (List.forall₂_and_left l out |>.mp hall).1

/-- A traversal whose operation succeeds with something related to each item succeeds with a list
that is related to the list item by item. -/
theorem exists_mapM_of_forall {f : α → Except ε β} {R : α → β → Prop} {l : List α}
    (h : ∀ a ∈ l, ∃ b, f a = .ok b ∧ R a b) :
    ∃ out, l.mapM f = .ok out ∧ List.Forall₂ R l out := by
  induction l with
  | nil => exact ⟨[], rfl, .nil⟩
  | cons a l ih =>
    obtain ⟨b, hb, hab⟩ := h a List.mem_cons_self
    obtain ⟨bs, hbs, hrest⟩ := ih fun a ha => h a (List.mem_cons_of_mem _ ha)
    refine ⟨b :: bs, ?_, .cons hab hrest⟩
    rw [List.mapM_cons]
    exact bind_eq_ok_iff.mpr ⟨b, hb, bind_eq_ok_iff.mpr ⟨bs, hbs, rfl⟩⟩

end Grader.Traversal
