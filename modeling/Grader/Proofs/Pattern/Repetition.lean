import Grader.Random.Data
import Mathlib.Tactic.Set

/-!
How a class of letters with counts in braces is read: the digits between the braces are read back as
the numbers that they were written for, so that the pattern is the class, repeated as often as the
counts say.
-/

namespace Grader.Pattern

/-- A reader that has read a number of characters more, and has a rest left. -/
def Progress.ahead (p : Progress) (count : Nat) (rest : List Token) : Progress :=
  { p with rest, place := p.place + count }

theorem Progress.ahead_ahead (p : Progress) (m n : Nat) (rest rest' : List Token) :
    (p.ahead m rest).ahead n rest' = p.ahead (m + n) rest' := by
  simp only [Progress.ahead, Nat.add_assoc]

namespace Token

/-- A text without backslashes is scanned character by character. -/
theorem scan_of_notMem {cs : List Char} (h : '\\' ∉ cs) : scan cs = (cs.map plain, false) := by
  induction cs with
  | nil => rfl
  | cons c cs ih =>
    obtain ⟨hc, hcs⟩ : '\\' ≠ c ∧ '\\' ∉ cs := by simpa [not_or] using h
    have hne : c ≠ '\\' := hc.symm
    rw [scan.eq_4 c cs (fun hslash _ => hne hslash) (fun _ _ hslash _ => hne hslash), ih hcs]
    rfl

end Token

namespace Reader

variable {p : Progress} {t : Token} {c : Char} {rest : List Token} {q : Char → Bool}
  {ds : List Char} {m n count : Nat}

theorem run_bind {α β : Type} {x : Reader α} {f : α → Reader β} {a : α} {p p' : Progress}
    (h : x.run p = .ok (a, p')) : (x >>= f).run p = (f a).run p' := by
  rw [StateT.run_bind, h]
  rfl

theorem run_get : (get : Reader Progress).run p = .ok (p, p) := rfl

theorem run_refuseLone (h : p.lone = false) : refuseLone.run p = .ok ((), p) := by
  have hguard : ¬(p.rest.isEmpty && p.lone) = true := by simp [h]
  unfold refuseLone
  rw [run_bind run_get, if_neg hguard]
  rfl

theorem run_take (h : p.rest = t :: rest) (hlone : p.lone = false) :
    take.run p = .ok (some t, p.ahead t.width rest) := by
  have hrefuse : refuseLone.run (p.ahead t.width rest) = .ok ((), p.ahead t.width rest) :=
    run_refuseLone hlone
  unfold take
  rw [run_bind run_get]
  simp only [h]
  have hset : (set (p.ahead t.width rest) : Reader PUnit).run p = .ok (⟨⟩, p.ahead t.width rest) :=
    rfl
  exact (run_bind hset).trans (run_bind hrefuse)

theorem run_next : next.run p = .ok (p.rest.head?, p) := rfl

theorem run_accept_self (h : p.rest = .plain c :: rest) (hlone : p.lone = false) :
    (accept c).run p = .ok (true, p.ahead 1 rest) := by
  unfold accept
  rw [run_bind run_next, h, List.head?_cons, if_pos rfl, run_bind (run_take h hlone)]
  rfl

theorem run_accept_other (h : p.rest.head? ≠ some (.plain c)) :
    (accept c).run p = .ok (false, p) := by
  unfold accept
  rw [run_bind run_next, if_neg h]
  rfl

/-- Characters are taken off up to the first one that does not satisfy the condition. -/
theorem run_takeChars (hds : ∀ c ∈ ds, q c = true)
    (hstop : ∀ c, rest.head? = some (.plain c) → q c = false) (hcount : ds.length ≤ count)
    (h : p.rest = ds.map .plain ++ rest) (hlone : p.lone = false) :
    (takeChars q count).run p = .ok (ds, p.ahead ds.length rest) := by
  induction ds generalizing p count with
  | nil =>
    have hrest : p.rest = rest := h
    have hsame : p.ahead 0 rest = p := by rw [← hrest]; rfl
    rw [List.length_nil, hsame]
    cases count with
    | zero => rfl
    | succ count =>
      unfold takeChars
      rw [run_bind run_next, hrest]
      split
      · rename_i c hc
        rw [if_neg (by simp [hstop c hc])]
        rfl
      · rfl
  | cons d ds ih =>
    -- One count is left for every character, so that the reader never stops for the count.
    obtain ⟨count, rfl⟩ : ∃ k, count = k + 1 := ⟨count - 1, by simp at hcount; omega⟩
    have hd : q d = true := hds d List.mem_cons_self
    have hrest : p.rest = .plain d :: (ds.map .plain ++ rest) := h
    have htail := ih (fun c hc => hds c (List.mem_cons_of_mem _ hc)) (by simpa using hcount)
      (p := p.ahead 1 (ds.map .plain ++ rest)) rfl hlone
    unfold takeChars
    rw [run_bind run_next, hrest]
    simp only [List.head?_cons]
    have hwidth : (Token.plain d).width = 1 := rfl
    rw [if_pos hd, run_bind (run_take hrest hlone), hwidth, run_bind htail, Progress.ahead_ahead,
      List.length_cons, Nat.add_comm ds.length]
    rfl

theorem run_countOf (h : valueIn 10 ds = n) (hn : n < repeatLimit) :
    (countOf ds).run p = .ok (n, p) := by
  unfold countOf
  rw [h]
  simp only [if_pos hn]
  rfl

theorem valueIn_eq_ofDigitChars (hds : ∀ c ∈ ds, c.isDigit = true) :
    valueIn 10 ds = Nat.ofDigitChars 10 ds 0 := by
  unfold valueIn
  rw [Nat.ofDigitChars_eq_foldl]
  generalize 0 = init
  induction ds generalizing init with
  | nil => rfl
  | cons d ds ih =>
    rw [List.foldl_cons, List.foldl_cons, if_pos (hds d List.mem_cons_self)]
    exact ih (fun c hc => hds c (List.mem_cons_of_mem _ hc)) _

theorem isDigit_of_mem_toDigits (hc : c ∈ Nat.toDigits 10 n) : c.isDigit = true :=
  Nat.isDigit_of_mem_toDigits (by decide) (Nat.le_refl 10) hc

theorem valueIn_toDigits (n : Nat) : valueIn 10 (Nat.toDigits 10 n) = n := by
  rw [valueIn_eq_ofDigitChars fun _ => isDigit_of_mem_toDigits, Nat.ofDigitChars_ten_toDigits]

theorem run_digits {stop : Char}
    (h : p.rest = (Nat.toDigits 10 n).map .plain ++ .plain stop :: rest)
    (hstop : stop.isDigit = false) (hcount : p.rest.length ≤ count) (hlone : p.lone = false) :
    (takeChars Char.isDigit count).run p =
      .ok (Nat.toDigits 10 n, p.ahead (Nat.toDigits 10 n).length (.plain stop :: rest)) := by
  have hlength : (Nat.toDigits 10 n).length ≤ p.rest.length := by
    rw [h, List.length_append, List.length_map]
    exact Nat.le_add_right _ _
  refine run_takeChars (fun _ => isDigit_of_mem_toDigits) ?_ (Nat.le_trans hlength hcount) h hlone
  rintro c hc
  cases hc
  exact hstop

/-- Two counts between braces are read back as the numbers that they were written for. -/
theorem run_bracedCount (hrest : p.rest = (Nat.toDigits 10 m).map .plain ++ .plain ',' ::
      ((Nat.toDigits 10 n).map .plain ++ .plain '\x7d' :: rest))
    (hlone : p.lone = false) (hle : m ≤ n) (hn : n < repeatLimit) :
    ∃ k, bracedCount.run p = .ok (some ⟨m, some n⟩, p.ahead k rest) := by
  have hm : m < repeatLimit := Nat.lt_of_le_of_lt hle hn
  have hempty (k : Nat) : (Nat.toDigits 10 k).isEmpty = false :=
    List.isEmpty_eq_false_iff.mpr (Nat.toDigits_ne_nil)
  -- The reader goes on behind the lower count, the comma and the upper count.
  have hlow := run_digits hrest (by decide) (Nat.le_refl _) hlone
  set p₁ := p.ahead (Nat.toDigits 10 m).length
    (.plain ',' :: ((Nat.toDigits 10 n).map .plain ++ .plain '\x7d' :: rest)) with hp₁
  have hcomma := run_accept_self (p := p₁) rfl hlone
  set p₂ := p₁.ahead 1 ((Nat.toDigits 10 n).map .plain ++ .plain '\x7d' :: rest) with hp₂
  have hshorter : p₂.rest.length ≤ p.rest.length := by
    rw [hrest]
    simp only [hp₂, Progress.ahead, List.length_append, List.length_cons]
    omega
  have hhigh := run_digits (p := p₂) rfl (by decide) hshorter hlone
  set p₃ := p₂.ahead (Nat.toDigits 10 n).length (.plain '\x7d' :: rest) with hp₃
  have hclose := run_accept_self (p := p₃) rfl hlone
  have hleast := run_countOf (p := p₃.ahead 1 rest) (valueIn_toDigits m) hm
  have hmost : (some <$> countOf (Nat.toDigits 10 n)).run (p₃.ahead 1 rest) =
      .ok (some n, p₃.ahead 1 rest) := by
    rw [StateT.run_map, run_countOf (valueIn_toDigits n) hn]
    rfl
  have horder : ¬(some n).any (fun n => decide (n < m)) = true := by
    rw [Option.any_some, decide_eq_true_eq]
    exact Nat.not_lt.mpr hle
  refine ⟨(Nat.toDigits 10 m).length + (1 + ((Nat.toDigits 10 n).length + 1)), ?_⟩
  unfold bracedCount
  rw [run_bind run_get, run_bind hlow]
  dsimp only
  rw [run_bind hcomma, if_pos rfl, run_bind hhigh, hempty]
  simp only [Bool.false_and, Bool.false_eq_true, if_false]
  rw [run_bind hclose]
  simp only [Bool.not_true, Bool.false_eq_true, if_false]
  rw [run_bind hleast, hempty, if_neg Bool.false_ne_true, run_bind hmost, if_neg horder, hp₃, hp₂,
    hp₁, Progress.ahead_ahead, Progress.ahead_ahead, Progress.ahead_ahead]
  rfl

theorem run_repeatLast {start : Nat} {members : List Member} (hrest : p.rest = []) :
    (repeatLast start ⟨m, some n⟩ [.oneOf false members]).run p =
      .ok ([.repeated m (some n) false [.oneOf false members]], p) := by
  have hlazy : (accept '?').run p = .ok (false, p) := run_accept_other (by simp [hrest])
  have hmore : (accept '+').run p = .ok (false, p) := run_accept_other (by simp [hrest])
  unfold repeatLast
  simp only [List.getLast?_singleton]
  rw [run_bind hlazy]
  simp only [Bool.false_eq_true, if_false]
  rw [run_bind hmore]
  rfl

section Class

variable {start fuel : Nat} {members : List Member} {a z : Char}

theorem run_classMembers_range (hrest : p.rest = .plain a :: .plain '-' :: .plain z :: rest)
    (ha : a ≠ ']') (hz : z ≠ ']') (hle : a ≤ z) (hlone : p.lone = false) :
    (classMembers start members (fuel + 1)).run p =
      (classMembers start (members ++ [.range a z]) fuel).run (p.ahead 3 rest) := by
  have hfirst := run_take hrest hlone
  have hdash := run_accept_self (p := p.ahead 1 (.plain '-' :: .plain z :: rest)) rfl hlone
  have hlast := run_take
    (p := (p.ahead 1 (.plain '-' :: .plain z :: rest)).ahead 1 (.plain z :: rest)) rfl hlone
  have hrange : (rangeOf (.plain a) (.plain z) (.literal a) (.literal z)).run (p.ahead 3 rest) =
      .ok (.range a z, p.ahead 3 rest) := by
    unfold rangeOf
    simp only [if_neg (Char.not_lt.mpr hle)]
    rfl
  rw [classMembers, run_bind hfirst]
  simp only [Token.plain.injEq, ha, decide_false, Bool.false_and, Bool.false_eq_true, if_false]
  have hlow : (memberOf (.plain a)).run (p.ahead 1 (.plain '-' :: .plain z :: rest)) =
      .ok (.literal a, p.ahead 1 (.plain '-' :: .plain z :: rest)) := rfl
  have hhigh : (memberOf (.plain z)).run (p.ahead 3 rest) = .ok (.literal z, p.ahead 3 rest) := rfl
  have hwidth (c : Char) : (Token.plain c).width = 1 := rfl
  rw [hwidth, run_bind hlow, run_bind hdash, if_pos rfl, run_bind hlast, hwidth,
    Progress.ahead_ahead, Progress.ahead_ahead]
  simp only [Token.plain.injEq, hz, if_false]
  rw [run_bind hhigh, run_bind hrange]

theorem run_classMembers_end (hrest : p.rest = .plain ']' :: rest) (hmembers : members ≠ [])
    (hlone : p.lone = false) :
    (classMembers start members (fuel + 1)).run p = .ok (members, p.ahead 1 rest) := by
  have hsome : members.isEmpty = false := List.isEmpty_eq_false_iff.mpr hmembers
  rw [classMembers, run_bind (run_take hrest hlone)]
  simp only [hsome, decide_true, Bool.not_false, Bool.and_self, if_true]
  rfl

/-- The tokens of a class of the letters of both cases, behind its opening bracket. -/
theorem run_classItem (hrest : p.rest = "a-zA-Z]".toList.map .plain ++ rest)
    (hlone : p.lone = false) :
    ∃ k, classItem.run p = .ok (.oneOf false [.range 'a' 'z', .range 'A' 'Z'], p.ahead k rest) := by
  have hrest' : p.rest = .plain 'a' :: .plain '-' :: .plain 'z' :: .plain 'A' :: .plain '-' ::
    .plain 'Z' :: .plain ']' :: rest := hrest
  have hnegated : (accept '^').run p = .ok (false, p) := run_accept_other (by simp [hrest'])
  have hfuel : p.rest.length + 1 = rest.length + 5 + 3 := by
    rw [hrest']
    rfl
  have hmembers : (classMembers (p.place - 1) [] (p.rest.length + 1)).run p =
      .ok ([.range 'a' 'z', .range 'A' 'Z'], p.ahead 7 rest) := by
    set upper : List Token := .plain 'A' :: .plain '-' :: .plain 'Z' :: .plain ']' :: rest
    rw [hfuel, run_classMembers_range hrest' (by decide) (by decide) (by decide) hlone,
      run_classMembers_range (p := p.ahead 3 upper) rfl (by decide) (by decide) (by decide) hlone,
      run_classMembers_end (p := (p.ahead 3 upper).ahead 3 (.plain ']' :: rest)) rfl
        (by simp) hlone,
      Progress.ahead_ahead, Progress.ahead_ahead]
    rfl
  refine ⟨7, ?_⟩
  unfold classItem here
  simp only [bind_assoc, pure_bind]
  rw [run_bind run_get, run_bind hnegated, run_bind run_get, run_bind hmembers]
  rfl

end Class

section Branches

variable {level : Level} {complete : List (List Item)} {items items' : List Item} {p' : Progress}
  {fuel : Nat}

/-- A token that stands for itself adds its item, and the reader goes on behind it. -/
theorem run_branches_single (hrest : p.rest = t :: rest) (hlone : p.lone = false)
    (hopens : t ≠ .plain '(' ∧ t ≠ .plain ')' ∧ t ≠ .plain '|')
    (h : (single p.place items t).run (p.ahead t.width rest) = .ok (items', p')) :
    (branches level false complete items (fuel + 1)).run p =
      (branches level false complete items' fuel).run p' := by
  obtain ⟨hopen, hclose, hbar⟩ := hopens
  have hhere : here.run p = .ok (p.place, p) := rfl
  rw [branches, run_bind hhere, run_bind run_next, hrest]
  simp only [List.head?_cons]
  rw [run_bind (run_take hrest hlone)]
  simp only [Bool.false_and, Bool.false_eq_true, if_false, hopen]
  exact run_bind h

theorem run_branches_end (hrest : p.rest = []) :
    (branches level false complete items (fuel + 1)).run p =
      .ok (complete ++ [Item.inlined items], p) := by
  have hhere : here.run p = .ok (p.place, p) := rfl
  rw [branches, run_bind hhere, run_bind run_next, hrest]
  rfl

end Branches

/-- The tokens behind a class of letters that repeat it. -/
def repeatTokens (m n : Nat) : List Token :=
  .plain '\x7b' :: ((Nat.toDigits 10 m).map .plain ++ .plain ',' ::
    ((Nat.toDigits 10 n).map .plain ++ [.plain '\x7d']))

theorem run_whole (hrest : p = { rest := "[a-zA-Z]".toList.map .plain ++ repeatTokens m n })
    (hle : m ≤ n) (hn : n < repeatLimit) :
    ∃ p', whole.run p =
      .ok ([.repeated m (some n) false [.oneOf false [.range 'a' 'z', .range 'A' 'Z']]], p') := by
  set letters : Item := .oneOf false [.range 'a' 'z', .range 'A' 'Z']
  set behind : List Token := "a-zA-Z]".toList.map .plain ++ repeatTokens m n
  have hopened : p.rest = .plain '[' :: behind := by rw [hrest]; rfl
  have hlone : p.lone = false := by rw [hrest]
  -- Two tokens open an item each, the bracket the class and the brace its counts.
  obtain ⟨j, hclass⟩ := run_classItem (p := p.ahead 1 behind) rfl hlone
  set p₁ := (p.ahead 1 behind).ahead j (repeatTokens m n)
  have hsingle : (single p.place [] (.plain '[')).run (p.ahead 1 behind) = .ok ([letters], p₁) :=
    run_bind hclass
  set counts : List Token := (Nat.toDigits 10 m).map .plain ++ .plain ',' ::
    ((Nat.toDigits 10 n).map .plain ++ [.plain '\x7d'])
  obtain ⟨k, hcounts⟩ := run_bracedCount (p := p₁.ahead 1 counts) rfl hlone hle hn
  set p₂ := (p₁.ahead 1 counts).ahead k []
  have hrepeat : (single p₁.place [letters] (.plain '\x7b')).run (p₁.ahead 1 counts) =
      .ok ([.repeated m (some n) false [letters]], p₂) :=
    (run_bind hcounts).trans (run_repeatLast rfl)
  obtain ⟨fuel, hfuel⟩ : ∃ fuel, 2 * p.rest.length + 2 = fuel + 1 + 1 + 1 :=
    ⟨2 * behind.length + 1, by rw [hopened, List.length_cons]; omega⟩
  have hbranches : (branches ⟨false, false⟩ false [] [] (2 * p.rest.length + 2)).run p =
      .ok ([[.repeated m (some n) false [letters]]], p₂) := by
    rw [hfuel, run_branches_single hopened hlone (by decide) hsingle,
      run_branches_single (p := p₁) rfl hlone (by decide) hrepeat, run_branches_end rfl]
    rfl
  -- The flags and the references are those that the reader began with.
  have hascii : p₂.ascii = false := by
    change p.ascii = false
    rw [hrest]
  have hreferred : p₂.referred = [] := by
    change p.referred = []
    rw [hrest]
  have hend : p₂.rest.isEmpty = true := rfl
  refine ⟨p₂, ?_⟩
  unfold whole
  rw [run_bind (run_refuseLone hlone), run_bind run_get, run_bind hbranches, run_bind run_get]
  simp only [hascii, hend, hreferred, Bool.false_and, Bool.false_eq_true, if_false, Bool.not_true,
    List.find?_nil]
  rfl

end Reader

/-- A class of letters with two counts is read as the class, repeated as often as they say. -/
theorem read_repeated {m n : Nat} (hle : m ≤ n) (hn : n < Reader.repeatLimit) :
    read (Draw.repeatedPattern Draw.letterPattern m n).toList =
      .ok [.repeated m (some n) false [.oneOf false [.range 'a' 'z', .range 'A' 'Z']]] := by
  have htext : (Draw.repeatedPattern Draw.letterPattern m n).toList =
      "[a-zA-Z]".toList ++
        '\x7b' :: (Nat.toDigits 10 m ++ ',' :: (Nat.toDigits 10 n ++ ['\x7d'])) := by
    have hdigits (k : Nat) : (toString (k : Int)).toList = Nat.toDigits 10 k := by
      rw [Int.toString_eq_repr, Int.repr_eq_if, if_pos (Int.natCast_nonneg k), Int.toNat_natCast,
        Nat.toList_repr]
    simp only [Draw.repeatedPattern, String.toList_append, hdigits]
    simp [Draw.letterPattern]
  have hplain : '\\' ∉ (Draw.repeatedPattern Draw.letterPattern m n).toList := by
    have hdigits (k : Nat) : '\\' ∉ Nat.toDigits 10 k := fun hmem =>
      absurd (Reader.isDigit_of_mem_toDigits hmem) (by decide)
    rw [htext]
    simp [hdigits]
  have hscan : Token.scan (Draw.repeatedPattern Draw.letterPattern m n).toList =
      ("[a-zA-Z]".toList.map .plain ++ Reader.repeatTokens m n, false) := by
    rw [Token.scan_of_notMem hplain, htext]
    simp only [Reader.repeatTokens, List.map_append, List.map_cons, List.map_nil]
  obtain ⟨p, hp⟩ := Reader.run_whole (m := m) (n := n) rfl hle hn
  unfold read
  rw [hscan]
  simp only [hp]
  rfl

end Grader.Pattern
