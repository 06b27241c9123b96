import Grader.Proofs.Traversal
import Grader.Text.Utf8

/-! Texts that bytes stand for. Decoding goes through the characters one by one, so that bytes decode
part by part wherever a part ends between characters (`decode_append`). A part that ends inside one
has its characters and then an open sequence, which is what decoding complains about. -/

namespace Grader.Text.Utf8

/-- The bytes stand for the characters. -/
inductive Decodes : List UInt8 → List Char → Prop
  | nil : Decodes [] []
  | single {b : UInt8} {bs : List UInt8} {cs : List Char} (hb : b.toNat < 0x80)
      (h : Decodes bs cs) : Decodes (b :: bs) (Char.ofNat b.toNat :: cs)
  | several {b : UInt8} {bs rest : List UInt8} {cs : List Char} {lo hi k v w : Nat}
      (hb : ¬b.toNat < 0x80) (hlead : lead b.toNat = some (lo, hi, k, v))
      (hfollow : follow lo hi k v bs = .ok (w, rest)) (h : Decodes rest cs) :
      Decodes (b :: bs) (Char.ofNat w :: cs)

section Follow

variable {lo hi n v w : Nat} {bs rest : List UInt8}

/-- Reading takes as many bytes as are asked for, whatever comes behind them. -/
theorem exists_of_follow (h : follow lo hi n v bs = .ok (w, rest)) :
    ∃ read, bs = read ++ rest ∧ read.length = n ∧
      ∀ more, follow lo hi n v (read ++ more) = .ok (w, more) := by
  induction n generalizing lo hi v bs with
  | zero =>
    cases h
    exact ⟨[], rfl, rfl, fun _ => rfl⟩
  | succ n ih =>
    cases bs with
    | nil => cases h
    | cons b bs =>
      unfold follow at h
      split at h
      · rename_i hrange
        obtain ⟨read, rfl, rfl, hread⟩ := ih (Traversal.mapError_eq_ok_iff.mp h)
        refine ⟨b :: read, rfl, rfl, fun more => ?_⟩
        rw [List.cons_append, follow, if_pos hrange, hread]
        rfl
      · cases h

theorem follow_append (h : follow lo hi n v bs = .ok (w, rest)) (more : List UInt8) :
    follow lo hi n v (bs ++ more) = .ok (w, rest ++ more) := by
  obtain ⟨read, rfl, -, hread⟩ := exists_of_follow h
  rw [List.append_assoc]
  exact hread _

theorem length_of_follow (h : follow lo hi n v bs = .ok (w, rest)) :
    bs.length = n + rest.length := by
  obtain ⟨read, rfl, rfl, -⟩ := exists_of_follow h
  exact List.length_append

/-- Continuation bytes that are there end within a part of the bytes, or the part runs out. -/
theorem follow_of_append {more : List UInt8} (h : follow lo hi n v (bs ++ more) = .ok (w, rest)) :
    (∃ left, follow lo hi n v bs = .ok (w, left) ∧ rest = left ++ more) ∨
      follow lo hi n v bs = .error (bs.length, true) := by
  induction n generalizing lo hi v bs with
  | zero =>
    cases h
    exact .inl ⟨bs, rfl, rfl⟩
  | succ n ih =>
    cases bs with
    | nil => exact .inr rfl
    | cons b bs =>
      rw [List.cons_append, follow] at h
      rw [follow]
      split at h
      · rename_i hrange
        rw [if_pos hrange]
        rcases ih (Traversal.mapError_eq_ok_iff.mp h) with ⟨left, hleft, rfl⟩ | hopen
        · rw [hleft]
          exact .inl ⟨left, rfl, rfl⟩
        · rw [hopen]
          exact .inr rfl
      · cases h

end Follow

theorem Decodes.append {xs ys : List UInt8} {cs ds : List Char} (hx : Decodes xs cs)
    (hy : Decodes ys ds) : Decodes (xs ++ ys) (cs ++ ds) := by
  induction hx with
  | nil => exact hy
  | single hb _ ih => exact .single hb ih
  | several hb hlead hfollow _ ih => exact .several hb hlead (follow_append hfollow ys) ih

/-- With enough fuel, decoding finds the characters that the bytes stand for. -/
theorem decodeFrom_eq_ok_iff {fuel pos : Nat} {acc cs : List Char} {bytes : List UInt8}
    (hfuel : bytes.length ≤ fuel) :
    decodeFrom fuel pos acc bytes = .ok cs ↔ ∃ ds, Decodes bytes ds ∧ cs = acc.reverse ++ ds := by
  induction fuel generalizing pos acc bytes with
  | zero =>
    obtain rfl := List.eq_nil_of_length_eq_zero (Nat.le_zero.mp hfuel)
    rw [decodeFrom]
    constructor
    · rintro ⟨⟩
      exact ⟨[], .nil, (List.append_nil _).symm⟩
    · rintro ⟨_, ⟨⟩, rfl⟩
      rw [List.append_nil]
  | succ fuel ih =>
    cases bytes with
    | nil =>
      rw [decodeFrom]
      constructor
      · rintro ⟨⟩
        exact ⟨[], .nil, (List.append_nil _).symm⟩
      · rintro ⟨_, ⟨⟩, rfl⟩
        rw [List.append_nil]
    | cons b bs =>
      have hbs : bs.length ≤ fuel := Nat.le_of_succ_le_succ hfuel
      -- The character that was read goes from the front of the rest to the end of the beginning.
      have hmove (c : Char) (ds : List Char) : (c :: acc).reverse ++ ds = acc.reverse ++ c :: ds := by
        rw [List.reverse_cons, List.append_assoc, List.singleton_append]
      rw [decodeFrom]
      by_cases hb : b.toNat < 0x80
      · rw [if_pos hb, ih hbs]
        constructor
        · rintro ⟨ds, hds, rfl⟩
          exact ⟨_, .single hb hds, hmove _ _⟩
        · rintro ⟨_, hds, rfl⟩
          cases hds with
          | single _ hds => exact ⟨_, hds, (hmove _ _).symm⟩
          | several hnot => exact absurd hb hnot
      · rw [if_neg hb]
        constructor
        · intro h
          split at h
          · cases h
          · rename_i lo hi k v hlead
            split at h
            · rename_i w rest hfollow
              have hrest : rest.length ≤ fuel := by
                have hlength := length_of_follow hfollow
                omega
              obtain ⟨ds, hds, rfl⟩ := (ih hrest).mp h
              exact ⟨_, .several hb hlead hfollow hds, hmove _ _⟩
            · cases h
        · rintro ⟨_, hds, rfl⟩
          cases hds with
          | single hlt => exact absurd hlt hb
          | @several _ _ rest _ _ _ _ _ _ _ hlead hfollow hds =>
            have hrest : rest.length ≤ fuel := by
              have hlength := length_of_follow hfollow
              omega
            simp only [hlead, hfollow]
            exact (ih hrest).mpr ⟨_, hds, (hmove _ _).symm⟩

theorem decode_eq_ok_iff {bytes : List UInt8} {cs : List Char} :
    decode bytes = .ok cs ↔ Decodes bytes cs := by
  unfold decode
  rw [decodeFrom_eq_ok_iff (Nat.le_refl _)]
  simp

/-- Parts that end between characters are decoded one after the other. -/
theorem decode_append {xs ys : List UInt8} {cs ds : List Char} (hx : decode xs = .ok cs)
    (hy : decode ys = .ok ds) : decode (xs ++ ys) = .ok (cs ++ ds) :=
  decode_eq_ok_iff.mpr ((decode_eq_ok_iff.mp hx).append (decode_eq_ok_iff.mp hy))

/-- The bytes begin a character that goes on behind them. -/
def IsOpen : List UInt8 → Prop
  | [] => False
  | b :: bs => ¬b.toNat < 0x80 ∧ ∃ lo hi k v, lead b.toNat = some (lo, hi, k, v) ∧
      follow lo hi k v bs = .error (bs.length, true)

/-- A part of bytes that stand for a text has some of its characters, and ends behind the last of
them or inside the next. -/
theorem Decodes.split {xs ys : List UInt8} {cs : List Char} (h : Decodes (xs ++ ys) cs) :
    ∃ closed tail ds es, xs = closed ++ tail ∧ cs = ds ++ es ∧ Decodes closed ds ∧
      Decodes (tail ++ ys) es ∧ (tail = [] ∨ IsOpen tail) := by
  generalize hall : xs ++ ys = all at h
  induction h generalizing xs with
  | nil =>
    obtain ⟨rfl, rfl⟩ := List.append_eq_nil_iff.mp hall
    exact ⟨[], [], [], [], rfl, rfl, .nil, .nil, .inl rfl⟩
  | single hb hcs ih =>
    cases xs with
    | nil => exact ⟨[], [], [], _, rfl, rfl, .nil, hall ▸ .single hb hcs, .inl rfl⟩
    | cons x xs =>
      obtain ⟨rfl, hrest⟩ := List.cons_eq_cons.mp hall
      obtain ⟨closed, tail, ds, es, rfl, rfl, hclosed, htail, hopen⟩ := ih hrest
      exact ⟨x :: closed, tail, _ :: ds, es, rfl, rfl, .single hb hclosed, htail, hopen⟩
  | several hb hlead hfollow hcs ih =>
    cases xs with
    | nil => exact ⟨[], [], [], _, rfl, rfl, .nil, hall ▸ .several hb hlead hfollow hcs, .inl rfl⟩
    | cons x xs =>
      obtain ⟨rfl, rfl⟩ := List.cons_eq_cons.mp hall
      rcases follow_of_append hfollow with ⟨left, hleft, rfl⟩ | hout
      · obtain ⟨closed, tail, ds, es, rfl, rfl, hclosed, htail, hopen⟩ := ih rfl
        obtain ⟨read, rfl, -, hread⟩ := exists_of_follow hleft
        exact ⟨x :: (read ++ closed), tail, _ :: ds, es, by simp, rfl,
          .several hb hlead (hread closed) hclosed, htail, hopen⟩
      · exact ⟨[], x :: xs, [], _, rfl, rfl, .nil, .several hb hlead hfollow hcs,
          .inr ⟨hb, _, _, _, _, hlead, hout⟩⟩

/-- Decoding goes through the characters at the front and is left with the bytes behind them. -/
theorem decodeFrom_append {xs ys : List UInt8} {ds : List Char} (h : Decodes xs ds)
    (fuel pos : Nat) (acc : List Char) (hfuel : (xs ++ ys).length ≤ fuel) :
    ∃ left, ys.length ≤ left ∧ decodeFrom fuel pos acc (xs ++ ys) =
      decodeFrom left (pos + xs.length) (ds.reverse ++ acc) ys := by
  induction h generalizing fuel pos acc with
  | nil => exact ⟨fuel, hfuel, rfl⟩
  | @single b bs cs hb _ ih =>
    cases fuel with
    | zero => cases hfuel
    | succ fuel =>
      obtain ⟨left, hleft, hrest⟩ := ih fuel (pos + 1) (Char.ofNat b.toNat :: acc)
        (Nat.le_of_succ_le_succ hfuel)
      refine ⟨left, hleft, ?_⟩
      rw [List.cons_append, decodeFrom, if_pos hb, hrest, List.reverse_cons, List.append_assoc,
        List.singleton_append, List.length_cons, Nat.add_right_comm, Nat.add_assoc]
  | @several b bs rest cs lo hi k v w hb hlead hfollow _ ih =>
    have hlength := length_of_follow hfollow
    cases fuel with
    | zero => cases hfuel
    | succ fuel =>
      simp only [List.length_append, List.length_cons] at hfuel
      obtain ⟨left, hleft, hrest⟩ := ih fuel (pos + 1 + k) (Char.ofNat w :: acc)
        (by rw [List.length_append]; omega)
      refine ⟨left, hleft, ?_⟩
      have hpos : pos + (b :: bs).length = pos + 1 + k + rest.length := by
        rw [List.length_cons]
        omega
      rw [List.cons_append, decodeFrom, if_neg hb]
      simp only [hlead, follow_append hfollow ys, hrest, hpos]
      rw [List.reverse_cons, List.append_assoc, List.singleton_append]

/-- Bytes that end inside a character fail there, and for the end of the bytes. -/
theorem decode_open {xs ys : List UInt8} {ds : List Char} (h : Decodes xs ds) (hopen : IsOpen ys) :
    ∃ f, decode (xs ++ ys) = .error f ∧ f.first = xs.length ∧ f.count = ys.length ∧
      f.reason = "unexpected end of data" := by
  obtain ⟨left, hleft, hrest⟩ := decodeFrom_append h (xs ++ ys).length 0 [] (Nat.le_refl _)
  unfold decode
  rw [hrest]
  cases ys with
  | nil => exact hopen.elim
  | cons b bs =>
    obtain ⟨hb, lo, hi, k, v, hlead, hfollow⟩ := hopen
    cases left with
    | zero => cases hleft
    | succ left =>
      rw [decodeFrom, if_neg hb]
      simp only [hlead, hfollow]
      exact ⟨_, rfl, Nat.zero_add _, rfl, rfl⟩

end Grader.Text.Utf8
