import Mathlib

/-!
Rounding to a floating point number of 64 bits. A mantissa that has enough bits, or an exponent that
is small enough, is rounded to a number whose leading bit stands where it stood or one place higher,
and that number is what its bits are unpacked to, unless it is out of range.
-/

open Float.Model Float.Model.UnpackedFloat

namespace Grader.Decimal

/-- A mantissa and an exponent as bits hold them: the leading bit is in its place unless the
exponent is the least one. -/
structure Canonical (m : Nat) (e : Int) : Prop where
  pos : 0 < m
  lt : m < 2 ^ 53
  least : -1074 ≤ e
  full : 2 ^ 52 ≤ m ∨ e = -1074

/-- The place of the leading bit. -/
def leading (m : Nat) (e : Int) : Int := m.log2 + e

/-- The exponent that a number is shifted to before it is rounded. -/
def target (m : Nat) (e : Int) : Int := max (leading m e - 52) (-1074)

variable {m k : Nat} {e : Int} {a : Accuracy} {s : Sign}

theorem targetExponent_eq (total : Int) :
    Format.binary64.targetExponent total = max (total - 53) (-1074) := by
  have hleast : Format.binary64.minExponent = -1074 := by decide
  have hbits : (Format.binary64.mantissaBits : Int) = 53 := by decide
  unfold Format.targetExponent
  rw [hleast, hbits]

theorem totalExponent_eq (m : Nat) (e : Int) : totalExponent m e = leading m e + 1 := by
  unfold totalExponent leading
  omega

theorem targetExponent_totalExponent (m : Nat) (e : Int) :
    Format.binary64.targetExponent (totalExponent m e) = target m e := by
  rw [targetExponent_eq, totalExponent_eq]
  unfold target
  omega

theorem mantissa_shift (em : ExtendedMantissa) (k : Nat) :
    (em >>> k).mantissa = em.mantissa / 2 ^ k := by
  induction k with
  | zero => exact (Nat.div_one _).symm
  | succ k ih =>
    have hstep : (em >>> (k + 1)).mantissa = (em >>> k).mantissa / 2 := rfl
    rw [hstep, ih, Nat.div_div_eq_div_mul, Nat.pow_succ]

theorem mantissa_ofMantissaAndAccuracy (m : Nat) (a : Accuracy) :
    (ExtendedMantissa.ofMantissaAndAccuracy m a).mantissa = m := by
  cases a with
  | exact => rfl
  | inexact o => cases o <;> rfl

theorem roundedMantissa_mem (em : ExtendedMantissa) :
    em.mantissa ≤ em.roundedMantissa ∧ em.roundedMantissa ≤ em.mantissa + 1 := by
  obtain ⟨m, round, sticky⟩ := em
  cases round <;> cases sticky <;>
    simp only [ExtendedMantissa.roundedMantissa, ExtendedMantissa.accuracy,
      Accuracy.roundToNearestEven] <;> omega

/-- What is rounded: the mantissa shifted to the target exponent. -/
def shifted (m : Nat) (e : Int) (a : Accuracy) : ExtendedMantissa :=
  ExtendedMantissa.ofMantissaAndAccuracy m a >>> (target m e - e).toNat

theorem shiftToTargetExponent_eq (hfits : e ≤ target m e) (a : Accuracy) :
    shiftToTargetExponent Format.binary64 m e a = (shifted m e a, target m e) := by
  have hexponent : e + (target m e - e).toNat = target m e := by omega
  unfold shiftToTargetExponent shiftToExponent
  rw [targetExponent_totalExponent]
  exact Prod.ext rfl hexponent

theorem mantissa_shifted (m : Nat) (e : Int) (a : Accuracy) :
    (shifted m e a).mantissa = m / 2 ^ (target m e - e).toNat := by
  unfold shifted
  rw [mantissa_shift, mantissa_ofMantissaAndAccuracy]

theorem div_two_pow_ne_zero (hm : m ≠ 0) (hk : k ≤ m.log2) : m / 2 ^ k ≠ 0 := by
  have hle : 2 ^ k ≤ m := (Nat.le_log2 hm).mp hk
  have hpos : 0 < m / 2 ^ k := Nat.div_pos hle (Nat.two_pow_pos k)
  omega

theorem log2_div_two_pow (hm : m ≠ 0) (hk : k ≤ m.log2) : (m / 2 ^ k).log2 = m.log2 - k := by
  refine (Nat.log2_eq_iff (div_two_pow_ne_zero hm hk)).mpr ⟨?_, ?_⟩
  · rw [Nat.le_div_iff_mul_le (Nat.two_pow_pos k), ← Nat.pow_add, Nat.sub_add_cancel hk]
    exact Nat.log2_self_le hm
  · have hup : m.log2 - k + 1 + k = m.log2 + 1 := by omega
    rw [Nat.div_lt_iff_lt_mul (Nat.two_pow_pos k), ← Nat.pow_add, hup]
    exact Nat.lt_log2_self

/-- A mantissa that is shifted to its target exponent keeps the place of its leading bit. -/
theorem canonical_shift (hm : m ≠ 0) (hleast : -1074 ≤ leading m e) (hfits : e ≤ target m e) :
    Canonical (m / 2 ^ (target m e - e).toNat) (target m e) ∧
      leading (m / 2 ^ (target m e - e).toNat) (target m e) = leading m e := by
  have htarget : target m e = max (leading m e - 52) (-1074) := rfl
  have hleading : leading m e = m.log2 + e := rfl
  set k := (target m e - e).toNat with hk
  have hbits : k ≤ m.log2 := by omega
  have hne := div_two_pow_ne_zero hm hbits
  have hlog := log2_div_two_pow hm hbits
  refine ⟨⟨Nat.pos_of_ne_zero hne, (Nat.log2_lt hne).mp (by omega), by omega, ?_⟩, ?_⟩
  · by_cases hsmall : target m e = -1074
    · exact .inr hsmall
    · exact .inl ((Nat.le_log2 hne).mp (by omega))
  · unfold leading
    omega

/-- A number that is large enough is rounded to one whose leading bit is that of the mantissa that
was rounded first. -/
theorem roundWithAccuracy_eq (hm : m ≠ 0) (hleast : -1074 ≤ leading m e) (hfits : e ≤ target m e)
    (s : Sign) (a : Accuracy) :
    ∃ m' e' h, roundWithAccuracy Format.binary64 s m e a = .finite s m' e' h ∧ Canonical m' e' ∧
      leading m' e' = leading (shifted m e a).roundedMantissa (target m e) := by
  obtain ⟨hcanonical, hleading⟩ := canonical_shift hm hleast hfits
  have hmantissa := mantissa_shifted m e a
  have hfirst := shiftToTargetExponent_eq hfits a
  obtain ⟨hlow, -⟩ := roundedMantissa_mem (shifted m e a)
  rw [hmantissa] at hlow
  set t := target m e
  set q := m / 2 ^ (t - e).toNat
  set r := (shifted m e a).roundedMantissa with hr
  have hq := hcanonical.pos
  have hr0 : r ≠ 0 := by omega
  have hlog : q.log2 ≤ r.log2 :=
    (Nat.le_log2 hr0).mpr ((Nat.log2_self_le (by omega)).trans hlow)
  -- Rounding may carry into another bit; the second shift takes it back.
  have hleast' : -1074 ≤ leading r t := by
    unfold leading at hleading hleast ⊢
    omega
  have hfits' : t ≤ target r t := by
    unfold target leading
    rcases hcanonical.full with hfull | hmin
    · have hbits : 52 ≤ r.log2 := (Nat.le_log2 hr0).mpr (hfull.trans hlow)
      omega
    · omega
  obtain ⟨hcanonical', hleading'⟩ := canonical_shift hr0 hleast' hfits'
  have hsecond := shiftToTargetExponent_eq hfits' .exact
  have hmantissa' := mantissa_shifted r t .exact
  have hne' : (shifted r t .exact).mantissa ≠ 0 := by
    rw [hmantissa']
    exact hcanonical'.pos.ne'
  refine ⟨(shifted r t .exact).mantissa, target r t, Nat.pos_of_ne_zero hne', ?_, ?_, ?_⟩
  · unfold roundWithAccuracy
    rw [hfirst]
    simp only [← hr, hsecond]
    exact dif_neg hne'
  · rw [hmantissa']
    exact hcanonical'
  · rw [hmantissa']
    exact hleading'

/-- Rounding leaves the leading bit where it is, or carries into the next one. -/
theorem leading_rounded_mem (hm : m ≠ 0) (hleast : -1074 ≤ leading m e) (hfits : e ≤ target m e)
    (a : Accuracy) :
    leading m e ≤ leading (shifted m e a).roundedMantissa (target m e) ∧
      leading (shifted m e a).roundedMantissa (target m e) ≤ leading m e + 1 := by
  obtain ⟨hcanonical, hleading⟩ := canonical_shift hm hleast hfits
  obtain ⟨hlow, hhigh⟩ := roundedMantissa_mem (shifted m e a)
  rw [mantissa_shifted] at hlow hhigh
  set q := m / 2 ^ (target m e - e).toNat
  set r := (shifted m e a).roundedMantissa
  -- The rounded mantissa is the shifted one or one more, which has at most one bit more.
  have hq : 0 < q := hcanonical.pos
  have hr : r ≠ 0 := by omega
  have hleast : q.log2 ≤ r.log2 := (Nat.le_log2 hr).mpr ((Nat.log2_self_le hq.ne').trans hlow)
  have hmost : r.log2 < q.log2 + 2 := by
    rw [Nat.log2_lt hr]
    have hlt : q < 2 ^ (q.log2 + 1) := Nat.lt_log2_self
    have hpow : 2 ^ (q.log2 + 2) = 2 * 2 ^ (q.log2 + 1) := by rw [Nat.pow_succ]; ring
    omega
  unfold leading at hleading ⊢
  omega

/-- An exact mantissa, shifted: the last bit that is shifted out, and whether any is set behind. -/
theorem shift_exact (m k : Nat) :
    ExtendedMantissa.ofMantissaAndAccuracy m .exact >>> (k + 1) =
      ⟨m / 2 ^ (k + 1), m / 2 ^ k % 2 != 0, m % 2 ^ k != 0⟩ := by
  induction k with
  | zero =>
    have hstep : ExtendedMantissa.ofMantissaAndAccuracy m .exact >>> 1 =
        ⟨m / 2, m % 2 != 0, false⟩ := rfl
    rw [hstep, Nat.pow_zero, Nat.div_one, Nat.mod_one]
    rfl
  | succ k ih =>
    have hstep : ExtendedMantissa.ofMantissaAndAccuracy m .exact >>> (k + 1 + 1) =
        (ExtendedMantissa.ofMantissaAndAccuracy m .exact >>> (k + 1)).shiftRightOne := rfl
    have hsticky : (m / 2 ^ k % 2 != 0 || m % 2 ^ k != 0) = (m % 2 ^ (k + 1) != 0) := by
      rw [Nat.mod_pow_succ]
      rcases Nat.mod_two_eq_zero_or_one (m / 2 ^ k) with hbit | hbit <;> simp [hbit]
    rw [hstep, ih]
    unfold ExtendedMantissa.shiftRightOne
    simp only [hsticky, Nat.div_div_eq_div_mul, ← Nat.pow_succ]

theorem roundedMantissa_of_odd {em : ExtendedMantissa} (h : em.mantissa % 2 = 1) :
    em.roundedMantissa = em.mantissa + if em.roundBit then 1 else 0 := by
  -- A tie goes to the even neighbour, which is the one above.
  obtain ⟨m, round, sticky⟩ := em
  have hm : m % 2 = 1 := h
  cases round <;> cases sticky <;>
    simp [ExtendedMantissa.roundedMantissa, ExtendedMantissa.accuracy,
      Accuracy.roundToNearestEven, hm]

theorem Canonical.target_eq (h : Canonical m e) : target m e = e := by
  have hleast := h.least
  have hlog : m.log2 < 53 := (Nat.log2_lt h.pos.ne').mpr h.lt
  unfold target leading
  rcases h.full with hfull | hmin
  · have hbits : 52 ≤ m.log2 := (Nat.le_log2 h.pos.ne').mpr hfull
    omega
  · omega

theorem Canonical.le_iff (h : Canonical m e) : e ≤ 971 ↔ leading m e ≤ 1023 := by
  have htarget := h.target_eq
  unfold target at htarget
  omega

/-! ### Bits -/

section Bits

variable {hm : 0 < m}

theorem exponentBias_eq : (Format.exponentBias Format.binary64 : Int) = 1023 := by decide

theorem toNat_leading_append (mantissa : BitVec 52) :
    (1#1 ++ mantissa).toNat = 2 ^ 52 + mantissa.toNat := by
  have hsum := Nat.two_pow_add_eq_or_of_lt (a := 1) mantissa.isLt
  rw [BitVec.toNat_append, BitVec.toNat_ofNat, Nat.shiftLeft_eq, Nat.mul_comm, ← hsum, Nat.mul_one]

/-- A mantissa that is packed without its leading bit. -/
theorem unpack_normal (hm : 2 ^ 52 ≤ m) (hlt : m < 2 ^ 53) (he : -1074 ≤ e) (he' : e ≤ 971) :
    ∃ h, UnpackedFloat.unpack Format.binary64 (packComponents Format.binary64 s
      (BitVec.ofNat 11 (e + 1075).toNat) (BitVec.ofNat 52 m)) = .finite s m e h := by
  have hexponent : (BitVec.ofNat 11 (e + 1075).toNat).toNat = (e + 1075).toNat := by
    rw [BitVec.toNat_ofNat]
    exact Nat.mod_eq_of_lt (by omega)
  have hmost : BitVec.ofNat 11 (e + 1075).toNat ≠ -1#11 := by
    intro h
    have hvalue := congrArg BitVec.toNat h
    rw [hexponent] at hvalue
    have hones : (-1#11).toNat = 2047 := by decide
    omega
  have hleast : BitVec.ofNat 11 (e + 1075).toNat ≠ 0#11 := by
    intro h
    have hvalue := congrArg BitVec.toNat h
    rw [hexponent] at hvalue
    have hzero : (0#11).toNat = 0 := by decide
    omega
  have hmantissa : (1#1 ++ BitVec.ofNat 52 m).toNat = m := by
    have hbehind : (BitVec.ofNat 52 m).toNat = m - 2 ^ 52 := by
      rw [BitVec.toNat_ofNat]
      omega
    rw [toNat_leading_append, hbehind]
    omega
  refine ⟨by omega, ?_⟩
  unfold UnpackedFloat.unpack
  simp only [unpackExponent_packComponents, unpackMantissa_packComponents,
    unpackSign_packComponents, Sign.ofBitVec_toBitVec, hmost, hleast, if_false, hmantissa,
    hexponent, exponentBias_eq]
  congr 1
  push_cast
  omega

theorem unpack_subnormal (hm : 0 < m) (hlt : m < 2 ^ 52) :
    UnpackedFloat.unpack Format.binary64
        (packComponents Format.binary64 s 0#11 (BitVec.ofNat 52 m)) =
      .finite s m (-1074) hm := by
  have hmantissa : (BitVec.ofNat 52 m).toNat = m := by
    rw [BitVec.toNat_ofNat]
    exact Nat.mod_eq_of_lt hlt
  have hne : BitVec.ofNat 52 m ≠ 0#52 := by
    intro h
    have hvalue := congrArg BitVec.toNat h
    rw [hmantissa] at hvalue
    exact hm.ne' hvalue
  have hmost : (0#11 : BitVec 11) ≠ -1#11 := by decide
  unfold UnpackedFloat.unpack
  simp only [unpackExponent_packComponents, unpackMantissa_packComponents,
    unpackSign_packComponents, Sign.ofBitVec_toBitVec, hmost, hne, if_false, if_true, dite_false,
    hmantissa, exponentBias_eq]
  rfl

theorem pack_finite (hm : 0 < m) :
    (Float.Model.pack (.finite s m e hm)).unpack = UnpackedFloat.unpack Format.binary64
      (if 2 ^ 11 ≤ (e + 1075).toNat + 1 then packedInfinity Format.binary64 s
      else if m.log2 + 1 = 53 then
        packComponents Format.binary64 s (BitVec.ofNat 11 (e + 1075).toNat) (BitVec.ofNat 52 m)
      else packComponents Format.binary64 s 0#11 (BitVec.ofNat 52 m)) := by
  have hbiased : e + Format.exponentBias Format.binary64 + (52 : Nat) = e + 1075 := by
    rw [exponentBias_eq]
    omega
  unfold Float.Model.unpack Float.Model.pack UnpackedFloat.pack
  simp only [hbiased]
  rfl

/-- What is packed in range is unpacked as it was. -/
theorem unpack_pack_of_le (h : Canonical m e) (he : e ≤ 971) :
    (Float.Model.pack (.finite s m e hm)).unpack = .finite s m e hm := by
  have hleast := h.least
  have hlog : m.log2 < 53 := (Nat.log2_lt hm.ne').mpr h.lt
  rw [pack_finite, if_neg (by omega)]
  split
  · rename_i hbits
    have hfull : 2 ^ 52 ≤ m := (Nat.le_log2 hm.ne').mp (by omega)
    obtain ⟨_, hnormal⟩ := unpack_normal (s := s) hfull h.lt hleast he
    exact hnormal
  · rename_i hbits
    have hlt : m < 2 ^ 52 := (Nat.log2_lt hm.ne').mp (by omega)
    have hmin : e = -1074 := h.full.resolve_left (by omega)
    subst hmin
    exact unpack_subnormal hm hlt

/-- What is out of range is packed as infinity. -/
theorem unpack_pack_of_lt (he : 971 < e) :
    (Float.Model.pack (.finite s m e hm)).unpack = .infinity s := by
  rw [pack_finite, if_pos (by omega)]
  unfold packedInfinity UnpackedFloat.unpack
  simp only [unpackExponent_packComponents, unpackMantissa_packComponents,
    unpackSign_packComponents, Sign.ofBitVec_toBitVec, if_true]
  rfl

/-- What bits are unpacked to lies in range. -/
theorem unpack_mem {x : Float.Model} (h : x.unpack = .finite s m e hm) :
    Canonical m e ∧ e ≤ 971 := by
  have hparts := @packComponents_unpackSign_unpackExponent_unpackMantissa Format.binary64
    x.toBits.toBitVec
  generalize Sign.ofBitVec (@unpackSign Format.binary64 x.toBits.toBitVec) = sign at hparts
  generalize @unpackExponent Format.binary64 x.toBits.toBitVec = exponent at hparts
  generalize @unpackMantissa Format.binary64 x.toBits.toBitVec = mantissa at hparts
  unfold Float.Model.unpack at h
  rw [← hparts] at h
  unfold UnpackedFloat.unpack at h
  simp only [unpackExponent_packComponents, unpackMantissa_packComponents, exponentBias_eq] at h
  have hmantissa : mantissa.toNat < 2 ^ 52 := mantissa.isLt
  -- An exponent of ones alone is no finite number; one of zeros has no leading bit to be added.
  split at h
  · split at h <;> cases h
  · rename_i hmost
    split at h
    · split at h
      · cases h
      · rename_i hzero hne
        obtain ⟨-, rfl, rfl⟩ := UnpackedFloat.finite.inj h
        subst hzero
        exact ⟨⟨hm, by omega, by decide, .inr (by decide)⟩, by decide⟩
    · rename_i hleast
      obtain ⟨-, rfl, rfl⟩ := UnpackedFloat.finite.inj h
      have hpos : exponent.toNat ≠ 0 := fun hzero => hleast (BitVec.eq_of_toNat_eq hzero)
      have hlt : exponent.toNat ≠ 2047 := fun hones => hmost (BitVec.eq_of_toNat_eq hones)
      have hexponent : exponent.toNat < 2 ^ 11 := exponent.isLt
      have hfull := toNat_leading_append mantissa
      refine ⟨⟨hm, by omega, ?_, .inl (by omega)⟩, ?_⟩
      · push_cast
        omega
      · push_cast
        omega

end Bits

end Grader.Decimal
