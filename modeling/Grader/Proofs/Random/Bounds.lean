import Grader.Proofs.Pattern.Repetition

/-!
What is drawn stays between its bounds, whatever the state of the source: integers below a bound
that is left out, lists and texts with a length between two bounds that are both included. Bounds
that leave nothing to be drawn are refused before the source is touched.
-/

namespace Grader

namespace Draw

variable {α β : Type} {d supplier : Draw α} {f : α → Draw β} {t u v : Twister} {a : α} {e : Failure}
  {xs : List α}

/-- What is drawn from a source, and the source that is left. -/
def result (d : Draw α) (t : Twister) : Except Failure α × Twister := (ExceptT.run d).run t

theorem result_bind_of_ok (h : d.result t = (.ok a, u)) : (d >>= f).result t = (f a).result u := by
  have hd : (ExceptT.run d).run t = (.ok a, u) := h
  unfold result
  rw [ExceptT.run_bind, StateT.run_bind, hd]
  rfl

theorem result_bind_of_error (h : d.result t = (.error e, u)) :
    (d >>= f).result t = (.error e, u) := by
  have hd : (ExceptT.run d).run t = (.error e, u) := h
  unfold result
  rw [ExceptT.run_bind, StateT.run_bind, hd]
  rfl

theorem result_lift (s : StateM Twister α) :
    (liftM s : Draw α).result t = (.ok (s.run t).1, (s.run t).2) := rfl

/-! ### Integers -/

/-- A number below a positive bound is drawn from every source. -/
theorem range_of_pos {n : Int} (hn : 0 < n) (t : Twister) :
    ∃ r u, (range n).result t = (.ok r, u) ∧ 0 ≤ r ∧ r < n := by
  set drawn := (below n.toNat (toNat_pos hn)).run t
  refine ⟨drawn.1.val, drawn.2, ?_, Int.natCast_nonneg _, ?_⟩
  · unfold range
    rw [dif_pos hn]
    exact result_bind_of_ok (result_lift _)
  · have hbelow : drawn.1.val < n.toNat := drawn.1.isLt
    omega

theorem range_of_nonpos {n : Int} (hn : n ≤ 0) (t : Twister) :
    (range n).result t = (.error (.value "empty range for randrange()"), t) := by
  unfold range
  rw [dif_neg (by omega)]
  rfl

theorem whole_of_lt {low high : Int} (h : low < high) (t : Twister) :
    ∃ n u, (whole [low, high]).result t = (.ok n, u) ∧ low ≤ n ∧ n < high := by
  obtain ⟨r, u, hr, hnonneg, hlt⟩ := range_of_pos (n := high - low) (by omega) t
  exact ⟨low + r, u, result_bind_of_ok hr, by omega, by omega⟩

theorem whole_of_le {low high : Int} (h : high ≤ low) (t : Twister) :
    (whole [low, high]).result t = (.error (.value "empty range for randrange()"), t) :=
  result_bind_of_error (range_of_nonpos (by omega) t)

theorem between_of_le {low high : Int} (h : low ≤ high) (t : Twister) :
    ∃ n u, (between low high).result t = (.ok n, u) ∧ low ≤ n ∧ n ≤ high := by
  have hwidth : 0 < high - low + 1 := by omega
  set drawn := (below (high - low + 1).toNat (toNat_pos hwidth)).run t
  have hbelow : drawn.1.val < (high - low + 1).toNat := drawn.1.isLt
  refine ⟨low + drawn.1.val, drawn.2, ?_, by omega, by omega⟩
  unfold between
  rw [dif_pos hwidth]
  exact result_bind_of_ok (result_lift _)

theorem between_of_lt {low high : Int} (h : high < low) (t : Twister) :
    (between low high).result t = (.error (emptyRange low high), t) := by
  have hwidth : ¬0 < high - low + 1 := by omega
  unfold between
  rw [dif_neg hwidth]
  rfl

theorem choose_of_ne_nil (hxs : xs ≠ []) (t : Twister) :
    ∃ x u, (choose xs).result t = (.ok x, u) ∧ x ∈ xs := by
  have hlength : 0 < xs.length := List.length_pos_iff.mpr hxs
  set drawn := (below xs.length hlength).run t
  refine ⟨xs[drawn.1], drawn.2, ?_, List.getElem_mem _⟩
  unfold choose
  rw [dif_pos hlength]
  exact result_bind_of_ok (result_lift _)

/-! ### Lists -/

/-- A supplier supplies the members of a list, called for them one after the other and no more. -/
inductive Supplies (supplier : Draw α) : Twister → List α → Twister → Prop
  | nil {t : Twister} : Supplies supplier t [] t
  | cons {t u v : Twister} {x : α} {xs : List α} (h : supplier.result t = (.ok x, u))
      (rest : Supplies supplier u xs v) : Supplies supplier t (x :: xs) v

/-- What comes of calling a supplier a number of times: the list of what it supplied, or else its
own failure, behind which it is not called again. -/
inductive Filled (supplier : Draw α) (n : Nat) (t : Twister) :
    Except Failure (List α) × Twister → Prop
  | full {xs : List α} {u : Twister} (h : Supplies supplier t xs u) (length : xs.length = n) :
      Filled supplier n t (.ok xs, u)
  | failed {xs : List α} {u v : Twister} {e : Failure} (h : Supplies supplier t xs u)
      (length : xs.length < n) (failure : supplier.result u = (.error e, v)) :
      Filled supplier n t (.error e, v)

theorem filled_members (supplier : Draw α) (n : Nat) (t : Twister) :
    Filled supplier n t ((members supplier n).result t) := by
  -- On the number of calls: the first one leaves the source that the others go on with.
  induction n generalizing t with
  | zero => exact .full .nil rfl
  | succ n ih =>
    rw [members]
    rcases hfirst : supplier.result t with ⟨e | x, u⟩
    · rw [result_bind_of_error hfirst]
      exact .failed .nil (Nat.succ_pos n) hfirst
    · rw [result_bind_of_ok hfirst]
      have hrest := ih u
      cases hall : (members supplier n).result u with
      | mk outcome v =>
      rw [hall] at hrest
      cases hrest with
      | full hsupplies hlength =>
        rw [result_bind_of_ok hall]
        exact .full (.cons hfirst hsupplies) (by rw [List.length_cons, hlength])
      | failed hsupplies hlength hfailure =>
        rw [result_bind_of_error hall]
        exact .failed (.cons hfirst hsupplies) (Nat.succ_lt_succ hlength) hfailure

/-- The length of a list is drawn first, and then its members are. -/
theorem list_of_le {low high : Int} (hlow : 0 ≤ low) (hle : low ≤ high) (supplier : Draw α)
    (t : Twister) :
    ∃ (n : Nat) (u : Twister), low ≤ n ∧ n ≤ high ∧
      (whole [low, high + 1]).result t = (.ok (n : Int), u) ∧
      Filled supplier n u ((list low high supplier).result t) := by
  -- The upper bound is one more than the greatest length, as it is left out.
  obtain ⟨n, u, hn, hleast, hmost⟩ := whole_of_lt (Int.lt_add_one_of_le hle) t
  obtain ⟨n, rfl⟩ : ∃ k : Nat, n = k := ⟨n.toNat, by omega⟩
  have hfixed : fixedList (n : Int) supplier = members supplier n := by
    unfold fixedList
    rw [if_neg (by omega), Int.toNat_natCast]
  refine ⟨n, u, hleast, by omega, hn, ?_⟩
  have hlist : (list low high supplier).result t = (members supplier n).result u := by
    unfold list
    rw [if_neg (by omega), result_bind_of_ok hn, hfixed]
  rw [hlist]
  exact filled_members supplier n u

theorem list_of_invalid {low high : Int} (h : low < 0 ∨ high < low) (supplier : Draw α)
    (t : Twister) : (list low high supplier).result t = (.error (invalidRange low high), t) := by
  unfold list
  rw [if_pos h]
  rfl

end Draw

/-! ### Texts -/

namespace Pattern

open Draw

variable {α : Type} {g : Generator (List Char)} {pool : List Char}

theorem result_lifted {d : Draw α} {a : α} {t u : Twister} {groups : List (Nat × List Char)}
    (h : d.result t = (.ok a, u)) :
    ((liftM d : Generator α).run groups).result t = (.ok (a, groups), u) :=
  result_bind_of_ok h

/-- A generator yields texts of a length, made of the characters of a pool, from every source. -/
def Yields (g : Generator (List Char)) (length : Nat) (pool : List Char) : Prop :=
  ∀ groups t, ∃ cs groups' u, (g.run groups).result t = (.ok (cs, groups'), u) ∧
    cs.length = length ∧ ∀ c ∈ cs, c ∈ pool

theorem Yields.append {g g' : Generator (List Char)} {m n : Nat} (h : Yields g m pool)
    (h' : Yields g' n pool) : Yields (do return (← g) ++ (← g')) (m + n) pool := by
  intro groups t
  obtain ⟨cs, groups₁, u, hg, hlength, hpool⟩ := h groups t
  obtain ⟨cs', groups₂, v, hg', hlength', hpool'⟩ := h' groups₁ u
  refine ⟨cs ++ cs', groups₂, v, ?_, ?_, ?_⟩
  · rw [StateT.run_bind, result_bind_of_ok hg, StateT.run_bind, result_bind_of_ok hg']
    rfl
  · rw [List.length_append, hlength, hlength']
  · intro c hc
    exact (List.mem_append.mp hc).elim (hpool c) (hpool' c)

theorem yields_nil : Yields (pure []) 0 pool :=
  fun groups t => ⟨[], groups, t, rfl, rfl, fun _ hc => nomatch hc⟩

theorem yields_times (h : Yields g 1 pool) (n : Nat) : Yields (times g n) n pool := by
  induction n with
  | zero => exact yields_nil
  | succ n ih =>
    have hnext := h.append ih
    rw [Nat.add_comm] at hnext
    exact hnext

theorem yields_oneOf {negated : Bool} {members : List Member}
    (h : classChars negated members ≠ []) :
    Yields (generate [.oneOf negated members]) 1 (classChars negated members) := by
  have hone : Yields (generateItem (.oneOf negated members)) 1 (classChars negated members) := by
    intro groups t
    obtain ⟨c, u, hc, hmem⟩ := choose_of_ne_nil h t
    refine ⟨[c], groups, u, ?_, rfl, ?_⟩
    · rw [generateItem, StateT.run_bind, result_bind_of_ok (result_lifted hc)]
      rfl
    · simpa using hmem
  rw [generate, generate]
  exact hone.append yields_nil

theorem classChars_letters :
    classChars false [.range 'a' 'z', .range 'A' 'Z'] = letters := by
  decide

theorem isAlpha_of_mem_letters {c : Char} (h : c ∈ letters) : c.isAlpha = true := by
  have hall : letters.all Char.isAlpha = true := by decide
  exact List.all_eq_true.mp hall c h

theorem drawItems_repeated {members : List Member} {least most : Nat}
    (hmembers : classChars false members ≠ []) (hleast : least ≤ min most repeatCap)
    (t : Twister) :
    ∃ cs u, (drawItems [.repeated least (some most) false [.oneOf false members]]).result t =
        (.ok cs, u) ∧
      least ≤ cs.length ∧ cs.length ≤ min most repeatCap ∧
      ∀ c ∈ cs, c ∈ classChars false members := by
  obtain ⟨n, u, hn, hlow, hhigh⟩ :=
    between_of_le (show (least : Int) ≤ min (most : Int) repeatCap by omega) t
  obtain ⟨n, rfl⟩ : ∃ k : Nat, n = k := ⟨n.toNat, by omega⟩
  -- Behind the number of repetitions, each of them yields one character of the class.
  obtain ⟨cs, groups, v, hcs, hlength, hpool⟩ := yields_times (yields_oneOf hmembers) n [] u
  have hitem : ((generateItem (.repeated least (some most) false [.oneOf false members])).run
      []).result t = (.ok (cs, groups), v) := by
    rw [generateItem, if_neg Bool.false_ne_true, Option.getD_some, StateT.run_bind,
      result_bind_of_ok (result_lifted hn), Int.toNat_natCast]
    exact hcs
  have hall : ((generate [.repeated least (some most) false [.oneOf false members]]).run
      []).result t = (.ok (cs, groups), v) := by
    rw [generate, generate, StateT.run_bind, result_bind_of_ok hitem, StateT.run_bind,
      StateT.run_pure, pure_bind, List.append_nil]
    rfl
  refine ⟨cs, v, ?_, by omega, by omega, hpool⟩
  unfold drawItems
  rw [map_eq_pure_bind, result_bind_of_ok hall]
  rfl

theorem drawItems_of_repeatCap_lt {items : List Item} {least most : Nat} (hcap : repeatCap < least)
    (hle : least ≤ most) (t : Twister) :
    (drawItems [.repeated least (some most) false items]).result t =
      (.error (emptyRange least repeatCap), t) := by
  -- The cap bounds the upper count alone, so that the number is drawn from an empty range.
  have hmost : min (most : Int) repeatCap = repeatCap := by omega
  have hn := between_of_lt (show (repeatCap : Int) < least by omega) t
  have hitem : ((generateItem (.repeated least (some most) false items)).run []).result t =
      (.error (emptyRange least repeatCap), t) := by
    rw [generateItem, if_neg Bool.false_ne_true, Option.getD_some, hmost, StateT.run_bind]
    exact result_bind_of_error (result_bind_of_error hn)
  have hall : ((generate [.repeated least (some most) false items]).run []).result t =
      (.error (emptyRange least repeatCap), t) := by
    rw [generate, StateT.run_bind, result_bind_of_error hitem]
  unfold drawItems
  rw [map_eq_pure_bind, result_bind_of_error hall]

end Pattern

namespace Draw

theorem text_of_read {pattern : String} {items : List Pattern.Item}
    (h : Pattern.read pattern.toList = .ok items) :
    text [pattern] = String.ofList <$> Pattern.drawItems items := by
  have hdraw : Pattern.draw pattern.toList = Pattern.drawItems items := by
    unfold Pattern.draw
    rw [h]
  rw [text, text, hdraw]
  simp only [pure_bind, String.append_empty]
  exact (map_eq_pure_bind _ _).symm

/-- Letters between two bounds that can be read back are letters, repeated as often. -/
theorem letterText_of_le {m n : Nat} (hle : m ≤ n) (hn : n < Pattern.Reader.repeatLimit) :
    letterText m n = String.ofList <$> Pattern.drawItems
      [.repeated m (some n) false [.oneOf false [.range 'a' 'z', .range 'A' 'Z']]] := by
  unfold letterText
  rw [if_neg (by omega)]
  exact text_of_read (Pattern.read_repeated hle hn)

theorem letterText_of_le_repeatCap {low high : Int} (hlow : 0 ≤ low) (hle : low ≤ high)
    (hhigh : high < Pattern.Reader.repeatLimit) (hcap : low ≤ Pattern.repeatCap) (t : Twister) :
    ∃ s u, (letterText low high).result t = (.ok s, u) ∧ low ≤ s.length ∧
      s.length ≤ min high Pattern.repeatCap ∧ ∀ c ∈ s.toList, c.isAlpha = true := by
  obtain ⟨m, rfl⟩ : ∃ k : Nat, low = k := ⟨low.toNat, by omega⟩
  obtain ⟨n, rfl⟩ : ∃ k : Nat, high = k := ⟨high.toNat, by omega⟩
  have hpool : Pattern.classChars false [.range 'a' 'z', .range 'A' 'Z'] ≠ [] := by
    rw [Pattern.classChars_letters]
    decide
  obtain ⟨cs, u, hcs, hleast, hmost, hmem⟩ :=
    Pattern.drawItems_repeated hpool (show m ≤ min n Pattern.repeatCap by omega) t
  refine ⟨String.ofList cs, u, ?_, ?_, ?_, ?_⟩
  · rw [letterText_of_le (by omega) (by omega), map_eq_pure_bind, result_bind_of_ok hcs]
    rfl
  · rw [String.length_ofList]
    omega
  · rw [String.length_ofList]
    omega
  · intro c hc
    rw [String.toList_ofList] at hc
    have hletter := hmem c hc
    rw [Pattern.classChars_letters] at hletter
    exact Pattern.isAlpha_of_mem_letters hletter

theorem letterText_of_repeatCap_lt {low high : Int} (hle : low ≤ high)
    (hhigh : high < Pattern.Reader.repeatLimit) (hcap : Pattern.repeatCap < low) (t : Twister) :
    (letterText low high).result t = (.error (emptyRange low Pattern.repeatCap), t) := by
  obtain ⟨m, rfl⟩ : ∃ k : Nat, low = k := ⟨low.toNat, by omega⟩
  obtain ⟨n, rfl⟩ : ∃ k : Nat, high = k := ⟨high.toNat, by omega⟩
  rw [letterText_of_le (by omega) (by omega), map_eq_pure_bind, result_bind_of_error
    (Pattern.drawItems_of_repeatCap_lt (by omega) (by omega) t)]

theorem letterText_of_invalid {low high : Int} (h : low < 0 ∨ high < low) (t : Twister) :
    (letterText low high).result t = (.error (invalidRange low high), t) := by
  unfold letterText
  rw [if_pos h]
  rfl

/-- What is drawn stays between its bounds. An integer lies below its upper bound; the length of a
list or a text may reach it, but a text of letters is never longer than the cap on repetitions, and
one that would have to be is refused. -/
theorem drawn_between_bounds (low high : Int) (t : Twister) :
    (low < high → ∃ n u, (whole [low, high]).result t = (.ok n, u) ∧ low ≤ n ∧ n < high) ∧
    (high ≤ low →
      (whole [low, high]).result t = (.error (.value "empty range for randrange()"), t)) ∧
    (0 ≤ low → low ≤ high → ∀ (α : Type) (supplier : Draw α), ∃ (n : Nat) (u : Twister),
      low ≤ n ∧ n ≤ high ∧ (whole [low, high + 1]).result t = (.ok (n : Int), u) ∧
      Filled supplier n u ((list low high supplier).result t)) ∧
    (0 ≤ low → low ≤ high → high < Pattern.Reader.repeatLimit →
      (low ≤ Pattern.repeatCap → ∃ s u, (letterText low high).result t = (.ok s, u) ∧
        low ≤ s.length ∧ s.length ≤ min high Pattern.repeatCap ∧
        ∀ c ∈ s.toList, c.isAlpha = true) ∧
      (Pattern.repeatCap < low →
        (letterText low high).result t = (.error (emptyRange low Pattern.repeatCap), t))) ∧
    (low < 0 ∨ high < low →
      (∀ (α : Type) (supplier : Draw α),
        (list low high supplier).result t = (.error (invalidRange low high), t)) ∧
      (letterText low high).result t = (.error (invalidRange low high), t)) := by
  refine ⟨fun h => whole_of_lt h t, fun h => whole_of_le h t, ?_, ?_, ?_⟩
  · intro hlow hle α supplier
    exact list_of_le hlow hle supplier t
  · intro hlow hle hhigh
    exact ⟨fun hcap => letterText_of_le_repeatCap hlow hle hhigh hcap t,
      fun hcap => letterText_of_repeatCap_lt hle hhigh hcap t⟩
  · intro hinvalid
    exact ⟨fun α supplier => list_of_invalid hinvalid supplier t, letterText_of_invalid hinvalid t⟩

theorem drawn_between_bounds_three_seven :
    (∃ n u, (whole [3, 7]).result (.ofSeed 0) = (.ok n, u) ∧ 3 ≤ n ∧ n < 7) ∧
    (∃ s u, (letterText 3 7).result (.ofSeed 0) = (.ok s, u) ∧ (3 : Int) ≤ s.length ∧
      (s.length : Int) ≤ min 7 Pattern.repeatCap ∧ ∀ c ∈ s.toList, c.isAlpha = true) ∧
    (list 7 3 coin).result (.ofSeed 0) = (.error (invalidRange 7 3), .ofSeed 0) := by
  obtain ⟨hwhole, -, -, htext, -⟩ := drawn_between_bounds 3 7 (.ofSeed 0)
  obtain ⟨-, -, -, -, hinvalid⟩ := drawn_between_bounds 7 3 (.ofSeed 0)
  refine ⟨hwhole (by decide), ?_, (hinvalid (by decide)).1 Bool coin⟩
  exact (htext (by decide) (by decide) (by decide)).1 (by decide)

/-- A text of 150 letters is asked for, and refused for its bounds. -/
theorem long_letters_refused :
    (letterText 150 150).result (.ofSeed 0) =
      (.error ⟨"ValueError", "empty range for randrange() (150, 101, -49)", []⟩, .ofSeed 0) ∧
    ¬∃ s u, (letterText 150 150).result (.ofSeed 0) = (.ok s, u) ∧ s.length = 150 := by
  have hrefused : (letterText 150 150).result (.ofSeed 0) =
      (.error (emptyRange 150 Pattern.repeatCap), .ofSeed 0) :=
    letterText_of_repeatCap_lt (by decide) (by decide) (by decide) _
  have htext : emptyRange 150 Pattern.repeatCap =
      ⟨"ValueError", "empty range for randrange() (150, 101, -49)", []⟩ := by decide +kernel
  rw [hrefused, htext]
  refine ⟨rfl, ?_⟩
  rintro ⟨s, u, h, -⟩
  cases h

end Draw

end Grader
