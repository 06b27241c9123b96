import Grader.Proofs.Grading.Registration

/-! The names of the checks of a registry. Each is one that somebody chose, for the check or for its
routine, or one made of a number that the registry has reached (`Registry.Named`). A name made of
the next number can be taken only because somebody chose it. -/

namespace Grader

variable {α : Type}

namespace Registration

open Registry in
/-- The name that somebody chose for the check or for its routine. -/
def chosen (g : Registration α) : Option String := (nonEmpty g.name).or (nonEmpty g.routine.name)

/-- The names that somebody chose for the checks of a registry or in registrations. -/
def namesChosen (initial : List (Check α)) (gs : List (Registration α)) : List String :=
  initial.map (·.name) ++ gs.filterMap chosen

end Registration

namespace Registry

/-- The name that a number makes. -/
def numbered (n : Nat) : String := s!"check_{n}"

theorem numbered_injective : Function.Injective numbered := by
  intro m n h
  exact Nat.repr_injective ((String.append_right_inj "check_").mp h)

variable {r : Registry α} {c : Check α} {g : Registration α} {n : Nat}

theorem name_of_chosen {s : String} (hc : g.Makes n c) (h : g.chosen = some s) : c.name = s := by
  rcases Option.or_eq_some_iff.mp h with hgiven | ⟨hnone, hown⟩
  · exact hc.given s hgiven
  · exact hc.own hnone s hown

theorem name_of_not_chosen (hc : g.Makes n c) (h : g.chosen = none) :
    c.name = numbered (n + 1) := by
  obtain ⟨hgiven, hown⟩ := Option.or_eq_none_iff.mp h
  exact hc.numbered hgiven hown

/-- Where the names of a registry come from, of which some are chosen. -/
structure Named (chosen : List String) (r : Registry α) : Prop where
  /-- A name that was chosen is in use, if only because it was in use already. -/
  kept : ∀ s ∈ chosen, s ∈ r.names
  origin : ∀ s ∈ r.names, s ∈ chosen ∨ ∃ k ≤ r.size, s = numbered k

theorem named_checks (r : Registry α) : r.Named (r.checks.map (·.name)) where
  kept _ h := h
  origin _ h := .inl h

variable {chosen : List String}

theorem Named.add {s : Registry α} (h : r.Named chosen) (hc : g.Makes r.size c)
    (hchecks : s.checks = r.checks ++ [c]) : s.Named (chosen ++ g.chosen.toList) where
  kept a ha := by
    rw [names_append hchecks]
    rcases List.mem_append.mp ha with hold | hnew
    · exact List.mem_append_left _ (h.kept a hold)
    · rw [name_of_chosen hc (Option.mem_toList.mp hnew)]
      exact List.mem_append_right _ List.mem_cons_self
  origin a ha := by
    rw [names_append hchecks] at ha
    rw [size_append hchecks]
    rcases List.mem_append.mp ha with hold | hnew
    · obtain hchosen | ⟨k, hk, rfl⟩ := h.origin a hold
      · exact .inl (List.mem_append_left _ hchosen)
      · exact .inr ⟨k, Nat.le_succ_of_le hk, rfl⟩
    · obtain rfl := List.mem_singleton.mp hnew
      cases hg : g.chosen with
      | some b => exact .inl (by simp [name_of_chosen hc hg])
      | none => exact .inr ⟨r.size + 1, le_rfl, name_of_not_chosen hc hg⟩

theorem Named.refuse (h : r.Named chosen) (hc : g.Makes n c) (hmem : c.name ∈ r.names) :
    r.Named (chosen ++ g.chosen.toList) where
  kept a ha := by
    rcases List.mem_append.mp ha with hold | hnew
    · exact h.kept a hold
    · rwa [← name_of_chosen hc (Option.mem_toList.mp hnew)]
  origin a ha := (h.origin a ha).imp_left (List.mem_append_left _)

theorem Named.after (h : r.Named chosen) (g : Registration α) :
    (r.after g).Named (chosen ++ g.chosen.toList) := by
  obtain ⟨c, hc, ⟨-, s, hs, hchecks⟩ | ⟨hmem, htaken⟩⟩ := perform_cases r g
  · rw [after_of_ok hs]
    exact h.add hc hchecks
  · rw [after_of_error htaken]
    exact h.refuse hc hmem

theorem Named.afterAll (h : r.Named chosen) (gs : List (Registration α)) :
    (r.afterAll gs).Named (chosen ++ gs.filterMap Registration.chosen) := by
  induction gs generalizing r chosen with
  | nil => rwa [List.filterMap_nil, List.append_nil]
  | cons g gs ih =>
    have hnames : g.chosen.toList ++ gs.filterMap Registration.chosen =
        (g :: gs).filterMap Registration.chosen := by
      cases hg : g.chosen <;> simp [hg]
    rw [afterAll_cons, ← hnames, ← List.append_assoc]
    exact ih (h.after g)

/-- A number that the registry has not reached makes a name that is in use only if it was chosen. -/
theorem Named.numbered_mem_iff (h : r.Named chosen) (hn : r.size < n) :
    numbered n ∈ r.names ↔ numbered n ∈ chosen := by
  refine ⟨fun hmem => ?_, h.kept _⟩
  obtain hchosen | ⟨k, hk, heq⟩ := h.origin _ hmem
  · exact hchosen
  · have := numbered_injective heq
    omega

theorem named_afterAll {initial : List (Check α)} (h : ofChecks initial = .ok r)
    (gs : List (Registration α)) :
    (r.afterAll gs).Named (Registration.namesChosen initial gs) := by
  rw [Registration.namesChosen, ← checks_of_ofChecks h]
  exact (named_checks r).afterAll gs

/-- A routine for which nobody chose a name becomes a check, under a name that no check has, unless
the name that the next number makes has been chosen; then it is refused. -/
theorem numbered_fresh_or_chosen {initial : List (Check α)} (h : ofChecks initial = .ok r)
    (gs : List (Registration α)) (hg : g.chosen = none) :
    (numbered ((r.afterAll gs).size + 1) ∉ Registration.namesChosen initial gs →
      ∃ s c, (r.afterAll gs).perform g = .ok s ∧ s.checks = (r.afterAll gs).checks ++ [c] ∧
        c.name = numbered ((r.afterAll gs).size + 1) ∧ c.name ∉ (r.afterAll gs).names ∧
        c.body = g.routine.body) ∧
    (numbered ((r.afterAll gs).size + 1) ∈ Registration.namesChosen initial gs →
      (r.afterAll gs).perform g = .error (taken (numbered ((r.afterAll gs).size + 1))) ∧
        (r.afterAll gs).after g = r.afterAll gs) := by
  have hused := (named_afterAll h gs).numbered_mem_iff (Nat.lt_succ_self _)
  obtain ⟨c, hc, hcases⟩ := perform_cases (r.afterAll gs) g
  have hname := name_of_not_chosen hc hg
  rw [hname] at hcases
  rw [← hused]
  obtain ⟨hfree, s, hs, hchecks⟩ | ⟨hmem, htaken⟩ := hcases
  · refine ⟨fun _ => ⟨s, c, hs, hchecks, hname, ?_, hc.body⟩, fun hmem => absurd hmem hfree⟩
    rwa [hname]
  · exact ⟨fun hfree => absurd hmem hfree, fun _ => ⟨htaken, after_of_error htaken⟩⟩

/-- A routine without a name behind another one, and behind a check that is named like the next. -/
theorem numbered_fresh_or_chosen_next :
    (∃ s : Registry Unit, (afterAll {} [.add ⟨(), none, none⟩ none none]).perform
        (.add ⟨(), none, none⟩ none none) = .ok s ∧ s.names = ["check_1", "check_2"]) ∧
      ∃ r : Registry Unit, ofChecks [⟨"check_2", "d", ()⟩] = .ok r ∧
        r.perform (.add ⟨(), none, none⟩ none none) = .error (taken "check_2") := by
  have hempty : ofChecks ([] : List (Check Unit)) = .ok {} := rfl
  have hsecond : ofChecks [(⟨"check_2", "d", ()⟩ : Check Unit)] =
      .ok ⟨[⟨"check_2", "d", ()⟩], by simp⟩ := rfl
  have hnone : (Registration.add ⟨(), none, none⟩ none none : Registration Unit).chosen = none :=
    rfl
  refine ⟨?_, _, hsecond, ?_⟩
  · obtain ⟨s, c, hs, hchecks, hname, -⟩ :=
      (numbered_fresh_or_chosen hempty [.add ⟨(), none, none⟩ none none] hnone).1 (by decide)
    refine ⟨s, hs, ?_⟩
    rw [names, hchecks, List.map_append, List.map_singleton, hname]
    rfl
  · exact ((numbered_fresh_or_chosen hsecond [] hnone).2 (by decide)).1

/-- A check that has the next number for its name keeps a routine without one out. -/
theorem nameless_refused :
    ¬∀ (initial : List (Check Unit)) (r : Registry Unit), ofChecks initial = .ok r →
      ∃ s c, r.perform (.add ⟨(), none, none⟩ none none) = .ok s ∧
        s.checks = r.checks ++ [c] ∧ c.name ∉ r.names := by
  intro hfresh
  obtain ⟨s, -, hs, -⟩ := hfresh [⟨"check_2", "d", ()⟩] _ rfl
  cases hs

end Registry

end Grader
