import Grader.Grading.Registry
import Grader.Proofs.Traversal

/-! Sequences of registrations. `Registry.perform_cases` says once what a registration does: it makes
a check, and either adds it at the end or is refused because its name is taken. From it, a registry
has the checks that it was made with and those of the registrations that succeeded, in order, and a
registration that is refused leaves no trace. -/

namespace Grader

variable {α : Type}

/-- A registration of a routine: by a call, or by the decorator of the routine. -/
inductive Registration (α : Type) where
  | add (routine : Routine α) (name description : Option String)
  | decorate (description name : Option String) (routine : Routine α)

namespace Registration

def routine : Registration α → Routine α
  | add routine _ _ | decorate _ _ routine => routine

/-- The name that is asked for. -/
def name : Registration α → Option String
  | add _ name _ | decorate _ name _ => name

def description : Registration α → Option String
  | add _ _ description | decorate description _ _ => description

open Registry in
/-- The check that a registration makes when a number of checks are registered: by the name that is
asked for, that of the routine, or the next number; about what is given, what the author says first,
or its name. -/
structure Makes (g : Registration α) (registered : Nat) (c : Check α) : Prop where
  body : c.body = g.routine.body
  given : ∀ s, nonEmpty g.name = some s → c.name = s
  own : nonEmpty g.name = none → ∀ s, nonEmpty g.routine.name = some s → c.name = s
  numbered : nonEmpty g.name = none → nonEmpty g.routine.name = none →
    c.name = s!"check_{registered + 1}"
  described : ∀ s, nonEmpty g.description = some s → c.description = s
  documented : nonEmpty g.description = none → ∀ line rest,
    Text.lines (Text.strip (g.routine.doc.getD "")) = line :: rest → c.description = line
  undocumented : nonEmpty g.description = none →
    Text.lines (Text.strip (g.routine.doc.getD "")) = [] → c.description = c.name

end Registration

namespace Registry

def perform (r : Registry α) : Registration α → Except Failure (Registry α)
  | .add routine name description => (r.add routine name description).map (·.1)
  | .decorate description name routine => (r.decorate description name routine).map (·.1)

/-- The registry after a registration: the same one if it is refused. -/
def after (r : Registry α) (g : Registration α) : Registry α :=
  match r.perform g with
  | .ok s => s
  | .error _ => r

def afterAll (r : Registry α) (gs : List (Registration α)) : Registry α := gs.foldl after r

/-- Those of the registrations, made one after the other, that succeed. -/
def accepted (r : Registry α) : List (Registration α) → List (Registration α)
  | [] => []
  | g :: gs =>
    match r.perform g with
    | .ok s => g :: s.accepted gs
    | .error _ => r.accepted gs

section Step

variable {r s : Registry α} {c : Check α} {g : Registration α} {f : Failure}

theorem register_of_taken (h : c.name ∈ r.names) : r.register c = .error (taken c.name) :=
  dif_pos h

theorem register_of_free (h : c.name ∉ r.names) :
    ∃ s, r.register c = .ok s ∧ s.checks = r.checks ++ [c] := by
  have hfree : c.name ∉ r.checks.map (·.name) := h
  unfold register
  rw [dif_neg hfree]
  exact ⟨_, rfl, rfl⟩

theorem names_append (h : s.checks = r.checks ++ [c]) : s.names = r.names ++ [c.name] := by
  rw [names, h, List.map_append]
  rfl

theorem size_append (h : s.checks = r.checks ++ [c]) : s.size = r.size + 1 := by
  rw [size, h, List.length_append]
  rfl

theorem makes_checkOf (r : Registry α) (g : Registration α) :
    g.Makes r.size (r.checkOf g.routine g.name g.description) where
  body := rfl
  given s h := by simp [checkOf, nameOf, h]
  own h s hs := by simp [checkOf, nameOf, h, hs]
  numbered h hs := by simp [checkOf, nameOf, h, hs]
  described s h := by simp [checkOf, h]
  documented h line rest hlines := by simp [checkOf, firstLine, h, hlines]
  undocumented h hlines := by simp [checkOf, firstLine, h, hlines]

/-- However a routine is registered, the registry gets the same check. -/
theorem perform_eq (r : Registry α) (g : Registration α) :
    r.perform g = r.register (r.checkOf g.routine g.name g.description) := by
  cases g with
  | add routine name description =>
    change ((r.register _).map _).map _ = r.register (r.checkOf routine name description)
    cases r.register (r.checkOf routine name description) <;> rfl
  | decorate description name routine =>
    change (((r.register _).map _).map _).map _ =
      r.register (r.checkOf routine name description)
    cases r.register (r.checkOf routine name description) <;> rfl

/-- A registration adds the check that it makes at the end, or its name is taken. -/
theorem perform_cases (r : Registry α) (g : Registration α) :
    ∃ c, g.Makes r.size c ∧
      (c.name ∉ r.names ∧ (∃ s, r.perform g = .ok s ∧ s.checks = r.checks ++ [c]) ∨
        c.name ∈ r.names ∧ r.perform g = .error (taken c.name)) := by
  refine ⟨_, makes_checkOf r g, ?_⟩
  rw [perform_eq]
  by_cases h : (r.checkOf g.routine g.name g.description).name ∈ r.names
  · exact .inr ⟨h, register_of_taken h⟩
  · exact .inl ⟨h, register_of_free h⟩

theorem perform_eq_ok (h : r.perform g = .ok s) :
    ∃ c, g.Makes r.size c ∧ c.name ∉ r.names ∧ s.checks = r.checks ++ [c] := by
  obtain ⟨c, hc, ⟨hfree, t, ht, hchecks⟩ | ⟨-, htaken⟩⟩ := perform_cases r g
  · obtain rfl := Except.ok.inj (ht.symm.trans h)
    exact ⟨c, hc, hfree, hchecks⟩
  · cases htaken.symm.trans h

theorem after_of_ok (h : r.perform g = .ok s) : r.after g = s := by
  unfold after
  rw [h]

theorem after_of_error (h : r.perform g = .error f) : r.after g = r := by
  unfold after
  rw [h]

theorem accepted_of_ok (h : r.perform g = .ok s) (gs : List (Registration α)) :
    r.accepted (g :: gs) = g :: s.accepted gs := by
  rw [accepted, h]

theorem accepted_of_error (h : r.perform g = .error f) (gs : List (Registration α)) :
    r.accepted (g :: gs) = r.accepted gs := by
  rw [accepted, h]

end Step

/-- The constructor registers checks one by one, as long as their names are free. -/
theorem foldlM_register (r : Registry α) (cs : List (Check α)) :
    (∃ s, cs.foldlM register r = .ok s ∧ s.checks = r.checks ++ cs) ∨
      ∃ front c back, cs = front ++ c :: back ∧ c.name ∈ r.names ++ front.map (·.name) ∧
        cs.foldlM register r = .error (taken c.name) := by
  induction cs generalizing r with
  | nil => exact .inl ⟨r, rfl, (List.append_nil _).symm⟩
  | cons c cs ih =>
    rw [List.foldlM_cons]
    by_cases h : c.name ∈ r.names
    · rw [register_of_taken h]
      exact .inr ⟨[], c, cs, rfl, by simpa using h, rfl⟩
    · obtain ⟨s, hs, hchecks⟩ := register_of_free h
      rw [hs]
      rcases ih s with ⟨t, ht, htchecks⟩ | ⟨front, d, back, rfl, hmem, htaken⟩
      · refine .inl ⟨t, ht, ?_⟩
        rw [htchecks, hchecks, List.append_assoc, List.singleton_append]
      · refine .inr ⟨c :: front, d, back, rfl, ?_, htaken⟩
        simpa [names_append hchecks] using hmem

theorem ofChecks_of_nodup {cs : List (Check α)} (h : (cs.map (·.name)).Nodup) :
    ∃ r, ofChecks cs = .ok r ∧ r.checks = cs := by
  rcases foldlM_register {} cs with hok | ⟨front, c, back, rfl, hmem, -⟩
  · exact hok
  · simp only [List.map_append, List.map_cons] at h
    exact absurd rfl ((List.nodup_append.mp h).2.2 c.name hmem c.name List.mem_cons_self)

theorem ofChecks_of_not_nodup {cs : List (Check α)} (h : ¬(cs.map (·.name)).Nodup) :
    ∃ front c back, cs = front ++ c :: back ∧ c.name ∈ front.map (·.name) ∧
      ofChecks cs = .error (taken c.name) := by
  rcases foldlM_register {} cs with ⟨s, -, hchecks⟩ | htaken
  · refine absurd ?_ h
    have hnodup := s.nodup_names
    rwa [hchecks] at hnodup
  · exact htaken

theorem checks_of_ofChecks {r : Registry α} {cs : List (Check α)} (h : ofChecks cs = .ok r) :
    r.checks = cs := by
  by_cases hnodup : (cs.map (·.name)).Nodup
  · obtain ⟨s, hs, hchecks⟩ := ofChecks_of_nodup hnodup
    obtain rfl := Except.ok.inj (hs.symm.trans h)
    exact hchecks
  · obtain ⟨_, _, _, -, -, htaken⟩ := ofChecks_of_not_nodup hnodup
    cases htaken.symm.trans h

section Sequence

variable {r : Registry α} {g : Registration α} {f : Failure}

theorem afterAll_cons (r : Registry α) (g : Registration α) (gs : List (Registration α)) :
    r.afterAll (g :: gs) = (r.after g).afterAll gs := rfl

theorem afterAll_append (r : Registry α) (gs hs : List (Registration α)) :
    r.afterAll (gs ++ hs) = (r.afterAll gs).afterAll hs := List.foldl_append

theorem accepted_append (r : Registry α) (gs hs : List (Registration α)) :
    r.accepted (gs ++ hs) = r.accepted gs ++ (r.afterAll gs).accepted hs := by
  induction gs generalizing r with
  | nil => rfl
  | cons g gs ih =>
    rw [List.cons_append, afterAll_cons]
    cases h : r.perform g with
    | ok s => rw [accepted_of_ok h, accepted_of_ok h, after_of_ok h, ih, List.cons_append]
    | error f => rw [accepted_of_error h, accepted_of_error h, after_of_error h, ih]

theorem accepted_sublist (r : Registry α) (gs : List (Registration α)) :
    (r.accepted gs).Sublist gs := by
  induction gs generalizing r with
  | nil => exact .slnil
  | cons g gs ih =>
    cases h : r.perform g with
    | ok s =>
      rw [accepted_of_ok h]
      exact (ih s).cons_cons g
    | error f =>
      rw [accepted_of_error h]
      exact (ih r).cons g

/-- The checks of a registry after some registrations: those that it had, and behind them one for
each registration that succeeded, numbered from how many it had. -/
theorem checks_afterAll (r : Registry α) (gs : List (Registration α)) :
    ∃ new, (r.afterAll gs).checks = r.checks ++ new ∧
      List.Forall₂ (fun (g, n) c => Registration.Makes g n c) ((r.accepted gs).zipIdx r.size)
        new := by
  induction gs generalizing r with
  | nil => exact ⟨[], (List.append_nil _).symm, .nil⟩
  | cons g gs ih =>
    rw [afterAll_cons]
    cases h : r.perform g with
    | ok s =>
      obtain ⟨c, hc, -, hchecks⟩ := perform_eq_ok h
      obtain ⟨new, hnew, hmade⟩ := ih s
      rw [size_append hchecks] at hmade
      rw [after_of_ok h, accepted_of_ok h, List.zipIdx_cons]
      refine ⟨c :: new, ?_, .cons hc hmade⟩
      rw [hnew, hchecks, List.append_assoc, List.singleton_append]
    | error f =>
      rw [after_of_error h, accepted_of_error h]
      exact ih r

/-- A registration that is refused leaves no trace in what comes after it. -/
theorem without_refused {gs hs : List (Registration α)}
    (h : (r.afterAll gs).perform g = .error f) :
    r.afterAll (gs ++ g :: hs) = r.afterAll (gs ++ hs) ∧
      r.accepted (gs ++ g :: hs) = r.accepted (gs ++ hs) := by
  constructor
  · rw [afterAll_append, afterAll_append, afterAll_cons, after_of_error h]
  · rw [accepted_append, accepted_append, accepted_of_error h]

end Sequence

/-- What registrations do to a registry. -/
structure Records (r : Registry α) (gs : List (Registration α)) : Prop where
  names_nodup : (r.afterAll gs).names.Nodup
  names_eq : (r.afterAll gs).names = (r.afterAll gs).checks.map (·.name)
  size_eq : (r.afterAll gs).size = (r.afterAll gs).checks.length
  /-- The checks of those that succeed, in their order, behind the checks that were there. -/
  checks_eq : ∃ new, (r.afterAll gs).checks = r.checks ++ new ∧
    List.Forall₂ (fun (g, n) c => Registration.Makes g n c) ((r.accepted gs).zipIdx r.size) new
  in_order : (r.accepted gs).Sublist gs
  /-- A registration succeeds exactly if its name is free, and one that does not might as well not
  have been attempted. -/
  each : ∀ front g back, gs = front ++ g :: back →
    ∃ c, g.Makes (r.afterAll front).size c ∧
      (c.name ∉ (r.afterAll front).names →
        (r.afterAll front).perform g = .ok (r.afterAll (front ++ [g])) ∧
        (r.afterAll (front ++ [g])).checks = (r.afterAll front).checks ++ [c]) ∧
      (c.name ∈ (r.afterAll front).names →
        (r.afterAll front).perform g = .error (taken c.name) ∧
        r.afterAll (front ++ [g]) = r.afterAll front ∧
        r.afterAll gs = r.afterAll (front ++ back) ∧
        r.accepted gs = r.accepted (front ++ back))

theorem records (r : Registry α) (gs : List (Registration α)) : r.Records gs where
  names_nodup := (r.afterAll gs).nodup_names
  names_eq := rfl
  size_eq := rfl
  checks_eq := checks_afterAll r gs
  in_order := accepted_sublist r gs
  each := by
    rintro front g back rfl
    obtain ⟨c, hc, ⟨hfree, s, hs, hchecks⟩ | ⟨hmem, htaken⟩⟩ :=
      perform_cases (r.afterAll front) g
    · refine ⟨c, hc, fun _ => ?_, fun hmem => absurd hmem hfree⟩
      rw [afterAll_append, afterAll_cons, after_of_ok hs]
      exact ⟨hs, hchecks⟩
    · refine ⟨c, hc, fun hfree => absurd hmem hfree, fun _ =>
        ⟨htaken, ?_, without_refused htaken⟩⟩
      rw [afterAll_append, afterAll_cons, after_of_error htaken]
      rfl

/-- A registry is made of checks exactly if their names are distinct, and refused for a name that
occurs again. It has them in their order, and behind them, whatever registrations come, the checks
of those that succeed; the others leave everything as it is. -/
theorem registered_in_order (initial : List (Check α)) :
    ((initial.map (·.name)).Nodup → ∃ r, ofChecks initial = .ok r ∧ r.checks = initial ∧
      ∀ gs, r.Records gs) ∧
    (¬(initial.map (·.name)).Nodup → ∃ front c back, initial = front ++ c :: back ∧
      c.name ∈ front.map (·.name) ∧ ofChecks initial = .error (taken c.name)) := by
  refine ⟨fun h => ?_, ofChecks_of_not_nodup⟩
  obtain ⟨r, hr, hchecks⟩ := ofChecks_of_nodup h
  exact ⟨r, hr, hchecks, records r⟩

/-- A name that is asked for, one that is taken, one made of a number and one of a routine; and two
checks of the same name. -/
theorem registered_in_order_mixed :
    (∃ r : Registry Unit, ofChecks [⟨"first", "d", ()⟩] = .ok r ∧
      r.Records [.add ⟨(), none, some " It adds.\n"⟩ (some "sum") none,
        .decorate (some "again") (some "first") ⟨(), none, none⟩,
        .decorate none none ⟨(), none, none⟩,
        .add ⟨(), some "run", none⟩ none (some "It runs.")]) ∧
    ofChecks [⟨"first", "d", ()⟩, ⟨"first", "e", ()⟩] = .error (taken "first") := by
  obtain ⟨r, hr, -, hrecords⟩ :=
    (registered_in_order [(⟨"first", "d", ()⟩ : Check Unit)]).1 (by decide)
  obtain ⟨front, c, back, heq, -, htaken⟩ :=
    (registered_in_order [(⟨"first", "d", ()⟩ : Check Unit), ⟨"first", "e", ()⟩]).2 (by decide)
  refine ⟨⟨r, hr, hrecords _⟩, htaken.trans ?_⟩
  have hc : c ∈ [(⟨"first", "d", ()⟩ : Check Unit), ⟨"first", "e", ()⟩] := by simp [heq]
  have hname : c.name = "first" := by
    simp only [List.mem_cons, List.not_mem_nil, or_false] at hc
    obtain rfl | rfl := hc <;> rfl
  rw [hname]

end Registry

end Grader
