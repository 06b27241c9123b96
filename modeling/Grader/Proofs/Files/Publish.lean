import Grader.Files.Basic
import Grader.Proofs.Files.Path

/-! Files that are read after they were written. A path leads where its components say, through
directories; what is published under a path is what the absolute form of the path leads to. -/

namespace Grader.Files

variable {fs : Files}

/-- The components that a path comes to from a start, double dots taken as steps back. -/
def resolve (start cs : List String) : List String :=
  cs.foldl (fun acc c => if c = ".." then acc.dropLast else acc ++ [c]) start

theorem mem_of_mem_resolve {start cs : List String} {c : String} (h : c ∈ resolve start cs) :
    c ∈ start ∨ c ∈ cs := by
  induction cs generalizing start with
  | nil => exact .inl h
  | cons d cs ih =>
    have hstep : c ∈ start ∨ c = d ∨ c ∈ cs := by
      rcases ih h with hc | hc
      · simp only at hc
        split at hc
        · exact .inl (List.dropLast_subset start hc)
        · rcases List.mem_append.mp hc with hc | hc
          · exact .inl hc
          · exact .inr (.inl (List.mem_singleton.mp hc))
      · exact .inr (.inr hc)
    simpa using hstep

/-- Steps back are taken, so that none is left behind. -/
theorem back_notMem_resolve {start : List String} (h : ".." ∉ start) (cs : List String) :
    ".." ∉ resolve start cs := by
  unfold resolve
  induction cs generalizing start with
  | nil => exact h
  | cons c cs ih =>
    rw [List.foldl_cons]
    refine ih ?_
    split
    · exact fun hmem => h (List.dropLast_subset start hmem)
    · rename_i hc
      simpa [Ne.symm hc] using h

theorem resolve_append (start cs ds : List String) :
    resolve start (cs ++ ds) = resolve (resolve start cs) ds :=
  List.foldl_append

theorem resolve_of_notMem {cs : List String} (h : ".." ∉ cs) (start : List String) :
    resolve start cs = start ++ cs := by
  unfold resolve
  induction cs generalizing start with
  | nil => exact (List.append_nil start).symm
  | cons c cs ih =>
    rw [List.mem_cons, not_or] at h
    obtain ⟨hc, hcs⟩ := h
    rw [List.foldl_cons, if_neg (Ne.symm hc), ih hcs, List.append_assoc]
    rfl

/-- Components that a walk from the working directory can follow: every step leads to a directory,
and none is left out or taken back. -/
structure Along (fs : Files) (at' : List String) : Prop where
  steps : ∀ c ∈ at', c ≠ "" ∧ c ≠ "." ∧ c ≠ ".."
  directories : ∀ before, before <+: at' → before ≠ at' → fs.entryAt before = some .directory

namespace Along

theorem nil : Along fs [] :=
  ⟨fun _ h => absurd h List.not_mem_nil, fun _ h hne => absurd (List.prefix_nil.mp h) hne⟩

theorem of_append {at' rest : List String} (h : Along fs (at' ++ rest)) : Along fs at' := by
  refine ⟨fun c hc => h.steps c (List.mem_append_left rest hc), fun before hb hne => ?_⟩
  refine h.directories before (hb.trans (List.prefix_append at' rest)) fun heq => ?_
  -- A proper prefix is shorter, so that it cannot be the longer one.
  have hlen := hb.length_le
  rw [heq, List.length_append] at hlen
  have hrest : rest = [] := List.eq_nil_of_length_eq_zero (by omega)
  rw [hrest, List.append_nil] at heq
  exact hne heq

theorem snoc {at' : List String} {c : String} (h : Along fs at')
    (hdir : fs.entryAt at' = some .directory) (hc : c ≠ "" ∧ c ≠ "." ∧ c ≠ "..") :
    Along fs (at' ++ [c]) := by
  refine ⟨?_, fun before hb hne => ?_⟩
  · simpa [or_imp, forall_and, hc] using h.steps
  · rcases List.prefix_concat_iff.mp hb with heq | hb
    · exact absurd heq hne
    · by_cases heq : before = at'
      · rw [heq]
        exact hdir
      · exact h.directories before hb heq

end Along

/-- A walk that comes to an end followed directories, and it resolves the components that it was
given; what stands in front of the place where it starts does not matter. -/
theorem locateFrom_eq_ok {here pieces found : List String} (hhere : Along fs here.reverse)
    (h : fs.locateFrom here pieces = .ok found) :
    Along fs found ∧ ∀ base, resolve (base ++ here.reverse)
      (pieces.filter fun c => c != "" && c != ".") = base ++ found := by
  -- The invariant of the walk: the place where it stands was come to along directories.
  induction pieces generalizing here with
  | nil =>
    cases h
    exact ⟨hhere, fun _ => rfl⟩
  | cons c rest ih =>
    unfold locateFrom at h
    split at h
    · cases h
    · cases h
    · rename_i hdir
      split at h
      · -- An empty piece or a dot stays where it is.
        rename_i hskip
        have hdrop : (c != "" && c != ".") = false := by
          rcases Bool.or_eq_true_iff.mp hskip with h | h <;> simp_all
        rw [List.filter_cons, if_neg (by simp [hdrop])]
        exact ih hhere h
      · rename_i hkeep
        have hkept : (c != "" && c != ".") = true := by simpa using hkeep
        rw [List.filter_cons, if_pos hkept]
        split at h
        · rename_i hback
          split at h
          · cases h
          · rename_i d outer
            rw [List.reverse_cons] at hhere
            obtain ⟨halong, hresolve⟩ := ih hhere.of_append h
            refine ⟨halong, fun base => ?_⟩
            rw [← hresolve base]
            unfold resolve
            rw [List.foldl_cons, if_pos hback, List.reverse_cons, ← List.append_assoc,
              List.dropLast_concat]
        · rename_i hforth
          have hstep : c ≠ "" ∧ c ≠ "." ∧ c ≠ ".." := by
            simp only [Bool.and_eq_true, bne_iff_ne] at hkept
            exact ⟨hkept.1, hkept.2, hforth⟩
          have hnext : Along fs (c :: here).reverse := by
            rw [List.reverse_cons]
            exact hhere.snoc hdir hstep
          obtain ⟨halong, hresolve⟩ := ih hnext h
          refine ⟨halong, fun base => ?_⟩
          rw [← hresolve base]
          unfold resolve
          rw [List.foldl_cons, if_neg hforth, List.reverse_cons, List.append_assoc]

/-- Components along directories are found as they are. -/
theorem locateFrom_of_along {here rest : List String} (h : Along fs (here.reverse ++ rest)) :
    fs.locateFrom here rest = .ok (here.reverse ++ rest) := by
  induction rest generalizing here with
  | nil =>
    rw [List.append_nil]
    rfl
  | cons c rest ih =>
    have hdir : fs.entryAt here.reverse = some .directory := by
      refine h.directories _ (List.prefix_append _ _) fun heq => ?_
      simpa using congrArg List.length heq
    obtain ⟨hempty, hdot, hback⟩ := h.steps c (by simp)
    have hnext : (c :: here).reverse ++ rest = here.reverse ++ c :: rest := by simp
    unfold locateFrom
    simp only [hdir, hempty, hdot, hback, decide_false, Bool.or_self, Bool.false_eq_true, if_false]
    rw [ih (hnext ▸ h), hnext]

section Put

variable (at' : List String) (e : Entry)

theorem entryAt_put {q : List String} (hat : at' ≠ []) :
    (fs.put at' e).entryAt q = if q = at' then some e else fs.entryAt q := by
  by_cases hq : q = []
  · subst hq
    rw [if_neg (Ne.symm hat)]
    rfl
  · unfold entryAt
    rw [if_neg hq, if_neg hq]
    unfold put
    split
    · rename_i hthere
      have hkey (p : List String × Entry) : (if p.1 == at' then (at', e) else p).1 = p.1 := by
        split
        · rename_i hp
          exact (beq_iff_eq.mp hp).symm
        · rfl
      rw [List.find?_map]
      simp only [Function.comp_def, hkey, Option.map_map]
      cases hfind : fs.entries.find? (·.1 == q) with
      | none =>
        -- The entry is there, so that another one is looked for.
        have hne : q ≠ at' := by
          rintro rfl
          obtain ⟨p, hp, hpq⟩ := List.any_eq_true.mp hthere
          exact List.find?_eq_none.mp hfind p hp hpq
        rw [if_neg hne]
        rfl
      | some p =>
        have hp : p.1 = q := by simpa using List.find?_some hfind
        subst hp
        by_cases heq : p.1 = at' <;> simp [heq]
    · rename_i hnew
      have hnone : fs.entries.find? (·.1 == at') = none :=
        List.find?_eq_none.mpr fun p hp hpq => hnew (List.any_eq_true.mpr ⟨p, hp, hpq⟩)
      rw [List.find?_append]
      by_cases heq : q = at'
      · subst heq
        simp [hnone]
      · simp [heq, Ne.symm heq]

theorem along_put (hat : at' ≠ []) (h : Along fs at') : Along (fs.put at' e) at' := by
  refine ⟨h.steps, fun before hb hne => ?_⟩
  rw [entryAt_put at' e hat, if_neg hne]
  exact h.directories before hb hne

theorem base_put : (fs.put at' e).base = fs.base := by
  unfold put
  split <;> rfl

end Put

section Written

variable {fs' : Files} {path : String} {bytes : List UInt8}

theorem base_of_makeDirectory (h : fs.makeDirectory path = .ok fs') : fs'.base = fs.base := by
  unfold makeDirectory at h
  split at h
  · cases h
  · split at h
    · cases h
    · split at h
      · cases h
        exact base_put _ _
      all_goals cases h

theorem base_of_makeDirectories {fuel : Nat} (h : makeDirectories fuel fs path = .ok fs') :
    fs'.base = fs.base := by
  induction fuel generalizing fs fs' path with
  | zero =>
    cases h
    rfl
  | succ fuel ih =>
    unfold makeDirectories at h
    split at h
    · rename_i hmade
      cases h
      exact base_of_makeDirectory hmade
    · simp only at h
      split at h
      · cases h
      · split at h
        · cases h
        · rename_i fs₁ hparents
          have hbase := ih hparents
          split at h
          · rename_i hmade
            cases h
            exact (base_of_makeDirectory hmade).trans hbase
          · split at h
            · cases h
              exact hbase
            · cases h
    · split at h
      · cases h
        rfl
      · cases h

/-- A file is written where its path leads. -/
theorem exists_of_write (h : fs.write path bytes = .ok fs') :
    ∃ found, fs.locate path = .ok found ∧ found ≠ [] ∧ fs' = fs.put found (.file bytes) := by
  unfold write at h
  split at h
  · cases h
  · rename_i found hfound
    have hroot {e : Option Entry} (he : fs.entryAt found = e) (hne : e ≠ some .directory) :
        found ≠ [] := by
      rintro rfl
      exact hne he.symm
    refine ⟨found, hfound, ?_⟩
    split at h
    · cases h
    · rename_i hentry
      cases h
      exact ⟨hroot hentry (by simp), rfl⟩
    · rename_i hentry
      split at h
      · cases h
        exact ⟨hroot hentry (by simp), rfl⟩
      all_goals cases h

end Written

/-- A working directory given by an absolute path without double dots. -/
structure Grounded (fs : Files) : Prop where
  rooted : fs.base.toList.head? = some '/'
  resolved : ".." ∉ Path.components fs.base

section Read

variable {fs' : Files} {path : String} {bytes : List UInt8}

theorem absolute_eq (path : String) :
    fs.absolute path = "/" ++ String.intercalate "/"
      (resolve (if Path.rootOf path = "" then Path.components fs.base else [])
        (Path.components path)) := rfl

theorem absolute_normal (path : String) : fs.absolute (Path.normal path) = fs.absolute path := by
  simp only [absolute_eq, Path.components_normal, Path.rootOf_normal_eq_empty_iff]

theorem absolute_congr (h : fs'.base = fs.base) (path : String) :
    fs'.absolute path = fs.absolute path := by
  unfold absolute
  rw [h]

/-- An absolute path has the components of the working directory in front, and leads where the other
ones do. -/
theorem locateFrom_of_rooted {found : List String} (hrooted : path.toList.head? = some '/')
    (h : fs.locate path = .ok found) :
    ∃ cs, Path.components path = Path.components fs.base ++ cs ∧ fs.locateFrom [] cs = .ok found := by
  unfold locate at h
  split at h
  · cases h
  · split at h
    · rename_i cs hbelow
      unfold below at hbelow
      simp only at hbelow
      split at hbelow
      · rename_i htake
        cases hbelow
        have hbase : (Path.components path).take (Path.components fs.base).length =
            Path.components fs.base := beq_iff_eq.mp htake
        have hsplit := List.take_append_drop (Path.components fs.base).length (Path.components path)
        rw [hbase] at hsplit
        exact ⟨_, hsplit.symm, h⟩
      · cases hbelow
    · cases h

/-- A relative path leads where its pieces do. A slash at the end only asks whether a directory is
there. -/
theorem locateFrom_of_relative {found : List String} (hrelative : path.toList.head? ≠ some '/')
    (h : fs.locate path = .ok found) :
    fs.locateFrom [] ((Path.splitSlashes path.toList).map String.ofList) = .ok found := by
  unfold locate at h
  split at h
  · cases h
  · simp only at h
    split at h
    · cases h
    · rename_i found' hwalked
      have hsame : found' = found := by
        split at h
        · split at h
          · cases h
          · exact Except.ok.inj h
        · exact Except.ok.inj h
      rw [hwalked, hsame]

/-- The components of the working directory and those that a path leads to are what the components
of the path resolve to. -/
theorem resolve_of_locate (h : Path.rootOf path = "" ∨ ".." ∉ Path.components fs.base)
    {found : List String} (hfound : fs.locate (Path.normal path) = .ok found) :
    fs.Along found ∧
      resolve (if Path.rootOf path = "" then Path.components fs.base else [])
        (Path.components path) = Path.components fs.base ++ found := by
  by_cases hroot : Path.rootOf path = ""
  · have hrelative : (Path.normal path).toList.head? ≠ some '/' := fun hhead =>
      (Path.head_normal path).mp hhead hroot
    obtain ⟨halong, hresolve⟩ := locateFrom_eq_ok .nil (locateFrom_of_relative hrelative hfound)
    have hwalk := hresolve (Path.components fs.base)
    rw [List.reverse_nil, List.append_nil] at hwalk
    rw [if_pos hroot, ← Path.components_normal path]
    exact ⟨halong, hwalk⟩
  · obtain ⟨cs, hcs, hwalked⟩ := locateFrom_of_rooted ((Path.head_normal path).mpr hroot) hfound
    rw [Path.components_normal] at hcs
    have hfilter : cs.filter (fun c => c != "" && c != ".") = cs := by
      refine Path.filter_components fun c hc => ?_
      have hmem : c ∈ Path.components path := hcs ▸ List.mem_append_right _ hc
      exact Path.isComponent_of_mem hmem
    obtain ⟨halong, hresolve⟩ := locateFrom_eq_ok .nil hwalked
    have hwalk := hresolve (Path.components fs.base)
    rw [hfilter, List.reverse_nil, List.append_nil] at hwalk
    -- The steps back come after the working directory, which has none.
    have hback : ".." ∉ Path.components fs.base := h.resolve_left hroot
    rw [if_neg hroot, hcs, resolve_append, resolve_of_notMem hback, List.nil_append]
    exact ⟨halong, hwalk⟩

/-- The absolute form of a path has the components of the working directory and those that the path
leads to. -/
theorem absolute_of_locate (h : Path.rootOf path = "" ∨ ".." ∉ Path.components fs.base)
    {found : List String} (hfound : fs.locate (Path.normal path) = .ok found) :
    fs.Along found ∧ (∀ c ∈ Path.components fs.base ++ found, Path.IsComponent c) ∧
      fs.absolute path = "/" ++ String.intercalate "/" (Path.components fs.base ++ found) := by
  obtain ⟨halong, hresolved⟩ := resolve_of_locate h hfound
  refine ⟨halong, fun c hc => ?_, by rw [absolute_eq, hresolved]⟩
  rw [← hresolved] at hc
  rcases mem_of_mem_resolve hc with hc | hc
  · split at hc
    · exact Path.isComponent_of_mem hc
    · cases hc
  · exact Path.isComponent_of_mem hc

theorem read_of_along {found : List String} (halong : fs.Along found)
    (hcomponent : ∀ c ∈ Path.components fs.base ++ found, Path.IsComponent c)
    (hentry : fs.entryAt found = some (.file bytes)) :
    fs.read ("/" ++ String.intercalate "/" (Path.components fs.base ++ found)) = .ok bytes := by
  set base := Path.components fs.base with hbase
  set whole := "/" ++ String.intercalate "/" (base ++ found) with hwhole
  have hcomponents : Path.components whole = base ++ found := by
    rw [hwhole, Path.components_slash, Path.components_intercalate hcomponent]
  have hnonempty : whole ≠ "" := by
    simp [hwhole, String.ext_iff]
  have hrooted : whole.toList.head? = some '/' := by
    simp [hwhole]
  have hbelow : fs.below whole = some found := by
    unfold below
    simp [hcomponents, ← hbase]
  have hlocate : fs.locate whole = .ok found := by
    have hwalk : fs.locateFrom [] found = .ok found := locateFrom_of_along halong
    unfold locate
    rw [if_neg hnonempty, if_pos hrooted, hbelow]
    exact hwalk
  unfold read lookup
  rw [hlocate]
  simp only [hentry]

/-- What a path leads to is what is read under the absolute form of the path, if anything is. -/
theorem read_absolute_of_lookup {read : List UInt8}
    (hlookup : fs.lookup (Path.normal path) = .ok (.file bytes))
    (hread : fs.read (fs.absolute path) = .ok read) : read = bytes := by
  obtain ⟨found, hfound, hentry⟩ : ∃ found, fs.locate (Path.normal path) = .ok found ∧
      fs.entryAt found = some (.file bytes) := by
    unfold lookup at hlookup
    split at hlookup
    · cases hlookup
    · rename_i found hfound
      refine ⟨found, hfound, ?_⟩
      split at hlookup
      · rename_i e he
        cases hlookup
        exact he
      · cases hlookup
  by_cases h : Path.rootOf path = "" ∨ ".." ∉ Path.components fs.base
  · obtain ⟨halong, hcomponent, habsolute⟩ := absolute_of_locate h hfound
    rw [habsolute, read_of_along halong hcomponent hentry] at hread
    exact (Except.ok.inj hread).symm
  · -- The absolute form has no steps back, so that it cannot lie below a directory that has some.
    rw [not_or, not_not] at h
    obtain ⟨hroot, hback⟩ := h
    set cs := resolve [] (Path.components path) with hcs
    have habsolute : fs.absolute path = "/" ++ String.intercalate "/" cs := by
      rw [absolute_eq, if_neg hroot]
    have hcomponents : Path.components (fs.absolute path) = cs := by
      rw [habsolute, Path.components_slash, Path.components_intercalate]
      intro c hc
      rcases mem_of_mem_resolve hc with hc | hc
      · cases hc
      · exact Path.isComponent_of_mem hc
    have hbelow : fs.below (fs.absolute path) = none := by
      unfold below
      simp only [hcomponents]
      refine if_neg fun htake => ?_
      have hmem : ".." ∈ cs := List.take_subset _ cs (beq_iff_eq.mp htake ▸ hback)
      exact back_notMem_resolve List.not_mem_nil _ hmem
    have hlocate : fs.locate (fs.absolute path) = .error .notFound := by
      have hnonempty : fs.absolute path ≠ "" := by
        rw [habsolute]
        simp [String.ext_iff]
      have hrooted : (fs.absolute path).toList.head? = some '/' := by
        rw [habsolute]
        simp
      unfold locate
      rw [if_neg hnonempty, if_pos hrooted, hbelow]
    unfold Files.read lookup at hread
    rw [hlocate] at hread
    cases hread

/-- What is published under a path is read under the absolute form of the path. -/
theorem read_absolute_of_publish (h : fs.Grounded) (hpublish : fs.publish path bytes = .ok fs') :
    fs'.read (fs'.absolute path) = .ok bytes := by
  unfold publish at hpublish
  simp only at hpublish
  split at hpublish
  · cases hpublish
  · split at hpublish
    · cases hpublish
    · -- Only the second step matters: the directories change nothing about where paths lead.
      rename_i fs₁ hmade
      have hbase : fs₁.base = fs.base := base_of_makeDirectories hmade
      have hback : ".." ∉ Path.components fs₁.base := hbase ▸ h.resolved
      have hwrite : fs₁.write (Path.normal path) bytes = .ok fs' := by
        cases hw : fs₁.write (Path.normal path) bytes <;> rw [hw] at hpublish <;> cases hpublish
        rfl
      obtain ⟨found, hfound, hne, rfl⟩ := exists_of_write hwrite
      obtain ⟨halong, hcomponent, habsolute⟩ := absolute_of_locate (.inr hback) hfound
      have hput : (fs₁.put found (.file bytes)).base = fs₁.base := base_put found (.file bytes)
      rw [absolute_congr hput, habsolute, ← hput]
      refine read_of_along (along_put found _ hne halong) (hput ▸ hcomponent) ?_
      rw [entryAt_put found _ hne, if_pos rfl]

end Read

end Grader.Files
