import Grader.Decimal.Read
import Grader.Proofs.Decimal.Rounding

/-!
Integers as floating point numbers, and their quotients. An integer has a nearest floating point
number up to half a step below the first power of two that is out of range; divided by a positive
number that is finite, a positive integer stays positive, and only infinity makes it zero.
-/

open Float.Model Float.Model.UnpackedFloat

namespace Grader.Decimal

variable {m n : Nat} {e : Int} {x y : Float}

-- Neither limit is unfolded unless it is asked for, so that no step of a proof forms the number.
/-- The least integer of `k + 54` bits that is rounded up to `2 ^ (k + 54)`. -/
@[irreducible] def carryLimit (k : Nat) : Nat := 2 ^ (k + 54) - 2 ^ k

/-- The least integer that is out of range: `2 ^ 1024` less half a step. -/
@[irreducible] def integerLimit : Nat := carryLimit 970

/-- What rounding gives for a number that is large enough. -/
theorem unpack_pack_rounded (hm : m ≠ 0) (hleast : -1074 ≤ leading m e) (hfits : e ≤ target m e)
    (s : Sign) (a : Accuracy) :
    (leading (shifted m e a).roundedMantissa (target m e) ≤ 1023 →
      ∃ m' e' h, (Float.Model.pack (roundWithAccuracy Format.binary64 s m e a)).unpack =
        .finite s m' e' h ∧ leading m e ≤ leading m' e' ∧ leading m' e' ≤ leading m e + 1) ∧
    (1023 < leading (shifted m e a).roundedMantissa (target m e) →
      (Float.Model.pack (roundWithAccuracy Format.binary64 s m e a)).unpack = .infinity s) := by
  obtain ⟨m', e', h, hround, hcanonical, hleading⟩ := roundWithAccuracy_eq hm hleast hfits s a
  have hbounds := leading_rounded_mem hm hleast hfits a
  have hrange := hcanonical.le_iff
  rw [hround, ← hleading] at *
  refine ⟨fun hle => ⟨m', e', h, ?_, hbounds⟩, fun hlt => ?_⟩
  · exact unpack_pack_of_le hcanonical (hrange.mpr hle)
  · exact unpack_pack_of_lt (by omega)

/-! ### Integers -/

theorem log2_mul_two_pow (hn : n ≠ 0) (k : Nat) : (n * 2 ^ k).log2 = n.log2 + k := by
  have hne : n * 2 ^ k ≠ 0 := Nat.mul_ne_zero hn (Nat.two_pow_pos k).ne'
  refine (Nat.log2_eq_iff hne).mpr ⟨?_, ?_⟩
  · rw [Nat.pow_add]
    exact Nat.mul_le_mul_right _ (Nat.log2_self_le hn)
  · rw [Nat.add_right_comm, Nat.pow_add]
    exact Nat.mul_lt_mul_of_pos_right Nat.lt_log2_self (Nat.two_pow_pos k)

theorem leading_mul_two_pow (hn : n ≠ 0) (k : Nat) : leading (n * 2 ^ k) (-k) = n.log2 := by
  unfold leading
  rw [log2_mul_two_pow hn]
  omega

/-- An integer of more than 53 bits is rounded up to a power of two from half a step below it on. -/
theorem rounded_lt_iff {k : Nat} (hn : n ≠ 0) (hlog : n.log2 = k + 53) :
    (ExtendedMantissa.ofMantissaAndAccuracy (n * 2 ^ 53) .exact >>> (k + 53 + 1)).roundedMantissa <
        2 ^ 53 ↔
      n < carryLimit k := by
  have hhalves : n * 2 ^ 53 / 2 ^ (k + 53) = n / 2 ^ k := by
    rw [Nat.pow_add]
    exact Nat.mul_div_mul_right _ _ (Nat.two_pow_pos 53)
  have hsteps : n * 2 ^ 53 / 2 ^ (k + 53 + 1) = n / 2 ^ k / 2 := by
    rw [← hhalves, Nat.div_div_eq_div_mul, ← Nat.pow_succ]
  have hshift := shift_exact (n * 2 ^ 53) (k + 53)
  rw [hhalves, hsteps] at hshift
  have hlimit : n < carryLimit k ↔ n / 2 ^ k < 2 ^ 54 - 1 := by
    unfold carryLimit
    rw [Nat.div_lt_iff_lt_mul (Nat.two_pow_pos k), Nat.sub_mul, Nat.one_mul, ← Nat.pow_add,
      Nat.add_comm 54]
  have hmost : n / 2 ^ k < 2 ^ 54 := by
    rw [Nat.div_lt_iff_lt_mul (Nat.two_pow_pos k), ← Nat.pow_add, Nat.add_comm 54]
    exact (Nat.log2_lt hn).mp (by omega)
  rw [hlimit, hshift]
  generalize n / 2 ^ k = halves at hmost
  -- The mantissa with all bits set is odd, so that the bit behind it decides.
  by_cases hfull : halves / 2 = 2 ^ 53 - 1
  · rw [roundedMantissa_of_odd (by simp only [hfull]; decide)]
    simp only [hfull]
    rcases Nat.mod_two_eq_zero_or_one halves with hbit | hbit
    · simp only [hbit, bne_self_eq_false, Bool.false_eq_true, if_false]
      omega
    · simp only [hbit, bne_iff_ne, ne_eq, one_ne_zero, not_false_eq_true, if_true]
      omega
  · obtain ⟨-, hup⟩ := roundedMantissa_mem
      ⟨halves / 2, halves % 2 != 0, n * 2 ^ 53 % 2 ^ (k + 53) != 0⟩
    simp only at hup
    omega

theorem lt_carryLimit {k : Nat} (hn : n ≠ 0) (h : n.log2 < k + 53) : n < carryLimit k := by
  have hlt : n < 2 ^ (k + 53) := (Nat.log2_lt hn).mp h
  have hdouble : 2 ^ (k + 54) = 2 * 2 ^ (k + 53) := by rw [Nat.pow_succ]; ring
  have hstep : 2 ^ k ≤ 2 ^ (k + 53) := Nat.pow_le_pow_right (by decide) (Nat.le_add_right k 53)
  unfold carryLimit
  omega

theorem carryLimit_le {k : Nat} (hn : n ≠ 0) (h : k + 53 < n.log2) : carryLimit k ≤ n := by
  unfold carryLimit
  exact (Nat.sub_le _ _).trans ((Nat.le_log2 hn).mp h)

/-- The leading bit of an integer stays in range up to half a step below the first power of two that
is not. -/
theorem leading_integer (hn : 2 ^ 53 ≤ n) :
    leading (shifted (n * 2 ^ 53) (-53) .exact).roundedMantissa (target (n * 2 ^ 53) (-53)) ≤ 1023 ↔
      n < integerLimit := by
  have hne : n ≠ 0 := by omega
  have hmin : 53 ≤ n.log2 := (Nat.le_log2 hne).mpr hn
  have hleading : leading (n * 2 ^ 53) (-53) = n.log2 := leading_mul_two_pow hne 53
  have htarget : target (n * 2 ^ 53) (-53) = n.log2 - 52 := by
    unfold target
    omega
  have hfits : (-53 : Int) ≤ target (n * 2 ^ 53) (-53) := by omega
  have hmantissa : n * 2 ^ 53 ≠ 0 := Nat.mul_ne_zero hne (Nat.two_pow_pos 53).ne'
  rw [integerLimit]
  obtain ⟨hlow, hhigh⟩ := leading_rounded_mem hmantissa (by omega) hfits .exact
  rw [hleading] at hlow hhigh
  -- A carry matters for integers of 1024 bits only; these are rounded where the limit says.
  rcases Nat.lt_trichotomy n.log2 1023 with hsmall | hlast | hlarge
  · exact iff_of_true (by omega) (lt_carryLimit hne hsmall)
  · have hshift : shifted (n * 2 ^ 53) (-53) .exact =
        ExtendedMantissa.ofMantissaAndAccuracy (n * 2 ^ 53) .exact >>> 1024 := by
      unfold shifted
      rw [htarget, hlast]
      rfl
    have hrounded := rounded_lt_iff (k := 970) hne hlast
    rw [hshift, htarget, hlast] at hlow ⊢
    generalize (ExtendedMantissa.ofMantissaAndAccuracy (n * 2 ^ 53) .exact >>>
      1024).roundedMantissa = r at hrounded hlow ⊢
    have hr : r ≠ 0 := by
      rintro rfl
      unfold leading at hlow
      rw [Nat.log2_zero] at hlow
      omega
    rw [← hrounded, ← Nat.log2_lt hr]
    unfold leading
    omega
  · exact iff_of_false (by omega) (carryLimit_le hne hlarge).not_gt

theorem unpack_one : (1.0 : Float).toModel.unpack =
    .finite .positive (2 ^ 52) (-52) (by decide) := by
  rfl

theorem unpack_infinity : (1.0 / 0.0 : Float).toModel.unpack = .infinity .positive := by
  rfl

/-- An integer of up to 53 bits keeps its leading bit, however it is rounded. -/
theorem unpack_ofUInt64 (hn : n ≠ 0) (hlt : n < 2 ^ 53) :
    ∃ m e h, n.toUInt64.toFloat.toModel.unpack = .finite .positive m e h ∧
      (n.log2 : Int) ≤ leading m e ∧ leading m e ≤ n.log2 + 1 := by
  have hword : n.toUInt64.toNat = n := by
    rw [Nat.toUInt64, UInt64.toNat_ofNat']
    exact Nat.mod_eq_of_lt (by omega)
  have hlog : n.log2 < 53 := (Nat.log2_lt hn).mpr hlt
  have hround : n.toUInt64.toFloat.toModel = Float.Model.pack
      (roundWithAccuracy Format.binary64 .positive (n * 2 ^ (52 - n.log2)) (n.log2 - 52)
        .exact) := by
    change Float.Model.pack
      (UnpackedFloat.normalize Format.binary64 (n.toUInt64.toNat : Int) 0 .positive) = _
    rw [hword]
    have hpositive : compare (n : Int) 0 = .gt := compare_gt_iff_gt.mpr (by omega)
    have htarget : Format.binary64.targetExponent (totalExponent n 0) = n.log2 - 52 := by
      rw [targetExponent_totalExponent]
      unfold target leading
      omega
    have hamount : ((0 : Int) - (n.log2 - 52)).toNat = 52 - n.log2 := by omega
    unfold UnpackedFloat.normalize
    rw [hpositive]
    simp only
    unfold UnpackedFloat.round decreaseExponent
    simp only [Int.toNat_natCast, htarget, hamount, Nat.shiftLeft_eq]
    congr 2
    omega
  have hmantissa : n * 2 ^ (52 - n.log2) ≠ 0 := Nat.mul_ne_zero hn (Nat.two_pow_pos _).ne'
  have hleading : leading (n * 2 ^ (52 - n.log2)) (n.log2 - 52) = n.log2 := by
    unfold leading
    rw [log2_mul_two_pow hn]
    omega
  have hfits : (n.log2 : Int) - 52 ≤ target (n * 2 ^ (52 - n.log2)) (n.log2 - 52) := by
    unfold target
    omega
  obtain ⟨-, hhigh⟩ := leading_rounded_mem hmantissa (by omega) hfits .exact
  obtain ⟨m, e, h, hunpack, hbounds⟩ :=
    (unpack_pack_rounded hmantissa (by omega) hfits .positive .exact).1 (by omega)
  rw [hleading] at hbounds
  rw [hround]
  exact ⟨m, e, h, hunpack, hbounds⟩

theorem unpack_ofScientific_of_lt (hn : n ≠ 0) (hlt : n < 2 ^ 53) :
    ∃ m e h, (Float.ofScientific n false 0).toModel.unpack = .finite .positive m e h ∧
      0 ≤ leading m e := by
  -- Two roundings: the integer itself, and its product with one.
  obtain ⟨m, e, h, hunpack, hlow, hhigh⟩ := unpack_ofUInt64 hn hlt
  obtain ⟨hcanonical, -⟩ := unpack_mem hunpack
  have hproduct : (Float.ofScientific n false 0).toModel = Float.Model.pack
      (roundWithAccuracy Format.binary64 .positive (m * 2 ^ 52) (e - 52) .exact) := by
    have hfast : n < 2 ^ 53 ∧ 0 ≤ 22 := ⟨hlt, by decide⟩
    unfold Float.ofScientific
    rw [dif_pos hfast]
    change Float.Model.pack (UnpackedFloat.mul Format.binary64 n.toUInt64.toFloat.toModel.unpack
      (1.0 : Float).toModel.unpack) = _
    rw [hunpack, unpack_one]
    rfl
  have hlog : n.log2 < 53 := (Nat.log2_lt hn).mpr hlt
  have hmantissa : m * 2 ^ 52 ≠ 0 := Nat.mul_ne_zero h.ne' (Nat.two_pow_pos _).ne'
  have hleading : leading (m * 2 ^ 52) (e - 52) = leading m e := by
    unfold leading
    rw [log2_mul_two_pow h.ne']
    omega
  have hfits : e - 52 ≤ target (m * 2 ^ 52) (e - 52) := by
    have htarget := hcanonical.target_eq
    unfold target at htarget ⊢
    omega
  obtain ⟨-, hmost⟩ := leading_rounded_mem hmantissa (by omega) hfits .exact
  obtain ⟨m', e', h', hunpack', hleast, -⟩ :=
    (unpack_pack_rounded hmantissa (by omega) hfits .positive .exact).1 (by omega)
  rw [hproduct]
  exact ⟨m', e', h', hunpack', by omega⟩

theorem ofScientific_of_le (hn : 2 ^ 53 ≤ n) :
    (Float.ofScientific n false 0).toModel = Float.Model.pack
      (roundWithAccuracy Format.binary64 .positive (n * 2 ^ 53) (-53) .exact) := by
  have hne : n ≠ 0 := by omega
  have hslow : ¬(n < 2 ^ 53 ∧ 0 ≤ 22) := by omega
  unfold Float.ofScientific
  rw [dif_neg hslow]
  change Float.Model.pack (UnpackedFloat.ofScientific Format.binary64 n 0) = _
  unfold UnpackedFloat.ofScientific
  have hleast : ¬(0 : Int) < -((2 ^ Format.exponentBits Format.binary64 : Int) + n.log2) := by
    change ¬(0 : Int) < -(2 ^ 11 + n.log2)
    omega
  rw [dif_neg hne, if_neg (by decide), if_neg hleast, if_pos (by decide)]
  have hmantissa :
      n <<< Format.mantissaBits Format.binary64 * 10 ^ (0 : Int).toNat = n * 2 ^ 53 := by
    rw [Nat.shiftLeft_eq]
    exact Nat.mul_one _
  unfold UnpackedFloat.mul
  simp only [hmantissa]
  rfl

theorem pow_le_of_lt_length {k : Nat} (hk : 0 < k) (h : k < (Nat.toDigits 10 n).length) :
    10 ^ k ≤ n := by
  have hlength := Nat.length_toDigits_le_iff (b := 10) (n := n) (k := k) (by decide) hk
  omega

/-- An integer that is not out of range has a nearest floating point number; the others are rounded
to infinity. -/
theorem unpack_toFloat (hn : n ≠ 0) :
    (n < integerLimit → ∃ m e h, (toFloat n 0).toModel.unpack = .finite .positive m e h ∧
      0 ≤ leading m e) ∧
    (integerLimit ≤ n → (toFloat n 0).toModel.unpack = .infinity .positive) := by
  by_cases hlong : 400 < (Nat.toDigits 10 n).length
  · -- The text of the number is longer than that of any number in range.
    have hfloat : toFloat n 0 = 1.0 / 0.0 := by
      unfold toFloat
      simp only [hn, if_false, Int.ofNat_eq_natCast]
      exact if_pos (by omega)
    have hlarge : 10 ^ 400 ≤ n := pow_le_of_lt_length (by decide) hlong
    have hlimit : integerLimit ≤ 10 ^ 400 := by decide +kernel
    refine ⟨fun hlt => absurd (hlimit.trans hlarge) hlt.not_ge, fun _ => ?_⟩
    rw [hfloat]
    exact unpack_infinity
  · have hfloat : toFloat n 0 = Float.ofScientific n false 0 := by
      unfold toFloat
      simp only [hn, if_false, Int.ofNat_eq_natCast]
      rw [if_neg (by omega), if_neg (by omega)]
      rfl
    rw [hfloat]
    by_cases hexact : n < 2 ^ 53
    · have hlog : n.log2 < 970 + 53 := ((Nat.log2_lt hn).mpr hexact).trans (by decide)
      rw [integerLimit]
      exact ⟨fun _ => unpack_ofScientific_of_lt hn hexact,
        fun hle => absurd (lt_carryLimit hn hlog) hle.not_gt⟩
    · have hmin : 2 ^ 53 ≤ n := Nat.not_lt.mp hexact
      have hmantissa : n * 2 ^ 53 ≠ 0 := Nat.mul_ne_zero hn (Nat.two_pow_pos 53).ne'
      have hleading : leading (n * 2 ^ 53) (-53) = n.log2 := leading_mul_two_pow hn 53
      have hfits : (-53 : Int) ≤ target (n * 2 ^ 53) (-53) := by
        unfold target
        omega
      have hrounded := unpack_pack_rounded hmantissa (by omega) hfits .positive .exact
      rw [ofScientific_of_le hmin, ← leading_integer hmin, ← Nat.not_lt, ← leading_integer hmin,
        Int.not_le]
      refine ⟨fun hlt => ?_, hrounded.2⟩
      obtain ⟨m, e, h, hunpack, hleast, -⟩ := hrounded.1 hlt
      exact ⟨m, e, h, hunpack, by omega⟩

theorem isInf_toFloat (n : Nat) : (toFloat n 0).isInf = true ↔ integerLimit ≤ n := by
  have hinf : (toFloat n 0).isInf = (toFloat n 0).toModel.unpack.isInf := rfl
  rw [hinf]
  rcases eq_or_ne n 0 with rfl | hn
  · have hpositive : ¬integerLimit ≤ 0 := by decide +kernel
    exact iff_of_false (by decide) hpositive
  · obtain ⟨hfits, hlarge⟩ := unpack_toFloat hn
    rcases Nat.lt_or_ge n integerLimit with hlt | hle
    · obtain ⟨m, e, h, hunpack, -⟩ := hfits hlt
      rw [hunpack]
      exact iff_of_false Bool.false_ne_true hlt.not_ge
    · rw [hlarge hle]
      exact iff_of_true rfl hle

theorem ofInt?_natCast (n : Nat) :
    ofInt? n = if integerLimit ≤ n then none else some (toFloat n 0) := by
  have hsign : ¬(n : Int) < 0 := by omega
  unfold ofInt?
  simp only [Int.natAbs_natCast, isInf_toFloat, hsign, if_false]

/-! ### Quotients -/

theorem lt_iff : x < y ↔ x.toModel.unpack.compare y.toModel.unpack = some .lt := by
  change decide (UnpackedFloat.lt x.toModel.unpack y.toModel.unpack = true) = true ↔ _
  rw [decide_eq_true_iff]
  exact beq_iff_eq

theorem le_iff :
    x ≤ y ↔ (x.toModel.unpack.compare y.toModel.unpack).any (·.isLE) = true := by
  change decide (UnpackedFloat.le x.toModel.unpack y.toModel.unpack = true) = true ↔ _
  rw [decide_eq_true_iff]
  rfl

/-- The shapes of positive numbers. -/
inductive Positive : UnpackedFloat → Prop
  | infinity : Positive (.infinity .positive)
  | finite {m : Nat} {e : Int} {h : 0 < m} : Positive (.finite .positive m e h)

theorem pos_iff : 0.0 < x ↔ Positive x.toModel.unpack := by
  have hzero : (0.0 : Float).toModel.unpack = .zero .positive := rfl
  rw [lt_iff, hzero]
  constructor
  · intro h
    match hx : x.toModel.unpack, h with
    | .infinity .positive, _ => exact .infinity
    | .finite .positive _ _ _, _ => exact .finite
  · intro h
    cases hx : x.toModel.unpack <;> rw [hx] at h <;> cases h <;> rfl

theorem nonneg_of_unpack (h : x.toModel.unpack = .zero .positive ∨ Positive x.toModel.unpack) :
    0.0 ≤ x := by
  have hzero : (0.0 : Float).toModel.unpack = .zero .positive := rfl
  rw [le_iff, hzero]
  rcases h with hx | hx
  · rw [hx]
    rfl
  · cases hunpack : x.toModel.unpack <;> rw [hunpack] at hx <;> cases hx <;> rfl

theorem unpack_div (x y : Float) : (x / y).toModel.unpack = (Float.Model.pack
    (UnpackedFloat.div Format.binary64 x.toModel.unpack y.toModel.unpack)).unpack := rfl

/-- A quotient is computed to enough bits for rounding, as its exponent is not above the target. -/
theorem divCore_fits {m₁ m₂ : Nat} {e₁ e₂ : Int} (h₁ : m₁ ≠ 0) (h₂ : m₂ ≠ 0)
    (hleast : 0 ≤ leading m₁ e₁) (hmost : leading m₂ e₂ ≤ 1023) :
    ∃ q t a, divCore Format.binary64 m₁ e₁ m₂ e₂ = (q, t, a) ∧ q ≠ 0 ∧ -1074 ≤ leading q t ∧
      t ≤ target q t := by
  have htarget : Format.binary64.targetExponent (totalExponent m₁ e₁ - totalExponent m₂ e₂) =
      max (leading m₁ e₁ - leading m₂ e₂ - 53) (-1074) := by
    rw [targetExponent_eq, totalExponent_eq, totalExponent_eq, Int.add_sub_add_right]
  set t := min (e₁ - e₂) (max (leading m₁ e₁ - leading m₂ e₂ - 53) (-1074)) with ht
  set k := (e₁ - e₂ - t).toNat with hk
  have hbits : ((m₁.log2 + k : Nat) : Int) =
      m₂.log2 + 1 + (leading m₁ e₁ - leading m₂ e₂ - t - 1) := by
    unfold leading
    omega
  -- The quotient has at least `b + 1` bits, one fewer than the difference of the two lengths.
  obtain ⟨b, hb⟩ : ∃ b : Nat, m₁.log2 + k = b + (m₂.log2 + 1) :=
    ⟨m₁.log2 + k - (m₂.log2 + 1), by omega⟩
  have hquotient : 2 ^ b ≤ m₁ * 2 ^ k / m₂ := by
    rw [Nat.le_div_iff_mul_le (Nat.pos_of_ne_zero h₂)]
    calc 2 ^ b * m₂ ≤ 2 ^ b * 2 ^ (m₂.log2 + 1) := Nat.mul_le_mul_left _ Nat.lt_log2_self.le
      _ = 2 ^ (m₁.log2 + k) := by rw [← Nat.pow_add, hb]
      _ = 2 ^ m₁.log2 * 2 ^ k := Nat.pow_add ..
      _ ≤ m₁ * 2 ^ k := Nat.mul_le_mul_right _ (Nat.log2_self_le h₁)
  have hq : m₁ * 2 ^ k / m₂ ≠ 0 := by
    have hpos := Nat.two_pow_pos b
    omega
  have hlog : b ≤ (m₁ * 2 ^ k / m₂).log2 := (Nat.le_log2 hq).mpr hquotient
  refine ⟨m₁ * 2 ^ k / m₂, t, accuracyOfFraction (m₁ * 2 ^ k % m₂) m₂, ?_, hq, ?_, ?_⟩
  · unfold divCore
    simp only [htarget, ← ht, ← hk, Nat.shiftLeft_eq]
  · unfold leading
    omega
  · unfold target leading
    omega

/-- A number that is not less than one, divided by a positive one that is not infinite, is
positive. -/
theorem div_pos {m₁ m₂ : Nat} {e₁ e₂ : Int} {h₁ : 0 < m₁} {h₂ : 0 < m₂}
    (hx : x.toModel.unpack = .finite .positive m₁ e₁ h₁) (hleast : 0 ≤ leading m₁ e₁)
    (hy : y.toModel.unpack = .finite .positive m₂ e₂ h₂) : 0.0 < x / y := by
  obtain ⟨hcanonical, hrange⟩ := unpack_mem hy
  obtain ⟨q, t, a, hcore, hq, hleading, hfits⟩ :=
    divCore_fits h₁.ne' h₂.ne' hleast (hcanonical.le_iff.mp hrange)
  have hquotient : UnpackedFloat.div Format.binary64 x.toModel.unpack y.toModel.unpack =
      roundWithAccuracy Format.binary64 .positive q t a := by
    rw [hx, hy]
    unfold UnpackedFloat.div
    simp only [hcore]
    rfl
  obtain ⟨hsmall, hlarge⟩ := unpack_pack_rounded hq hleading hfits .positive a
  rw [pos_iff, unpack_div, hquotient]
  -- A quotient that is out of range is rounded to infinity, which is positive as well.
  rcases Int.lt_or_le 1023 (leading (shifted q t a).roundedMantissa (target q t)) with hlt | hle
  · rw [hlarge hlt]
    exact .infinity
  · obtain ⟨m, e, h, hunpack, -⟩ := hsmall hle
    rw [hunpack]
    exact .finite

theorem unpack_of_ofInt? (hx : ofInt? n = some x) :
    n = 0 ∧ x.toModel.unpack = .zero .positive ∨
      ∃ m e h, x.toModel.unpack = .finite .positive m e h ∧ 0 ≤ leading m e := by
  rw [ofInt?_natCast] at hx
  split at hx
  · cases hx
  · rename_i hlimit
    cases hx
    rcases eq_or_ne n 0 with rfl | hn
    · exact .inl ⟨rfl, rfl⟩
    · exact .inr ((unpack_toFloat hn).1 (Nat.not_le.mp hlimit))

theorem unpack_div_of_zero (hzero : UnpackedFloat.div Format.binary64 x.toModel.unpack
    y.toModel.unpack = .zero .positive) : (x / y).toModel.unpack = .zero .positive := by
  rw [unpack_div, hzero]
  exact unpack_packedZero

/-- A positive integer in range, divided by a positive number, is positive unless the divisor is
infinite. -/
theorem quotient_pos_iff (hn : n ≠ 0) (hx : ofInt? n = some x) (hy : 0.0 < y) :
    0.0 < x / y ↔ y.isInf = false := by
  obtain ⟨m, e, h, hunpack, hleast⟩ := (unpack_of_ofInt? hx).resolve_left fun hzero => hn hzero.1
  have hinf : y.isInf = y.toModel.unpack.isInf := rfl
  have hshape := pos_iff.mp hy
  rw [hinf]
  cases hdivisor : y.toModel.unpack <;> rw [hdivisor] at hshape <;> cases hshape
  · have hzero := unpack_div_of_zero (x := x) (y := y) (by rw [hunpack, hdivisor]; rfl)
    refine iff_of_false (fun hpos => ?_) (Bool.noConfusion : ¬true = false)
    rw [pos_iff, hzero] at hpos
    cases hpos
  · exact iff_of_true (div_pos hunpack hleast hdivisor) rfl

theorem quotient_nonneg (hx : ofInt? n = some x) (hy : 0.0 < y) : 0.0 ≤ x / y := by
  apply nonneg_of_unpack
  have hshape := pos_iff.mp hy
  rcases unpack_of_ofInt? hx with ⟨-, hzero⟩ | ⟨m, e, h, hunpack, hleast⟩
  · left
    apply unpack_div_of_zero
    rw [hzero]
    cases hdivisor : y.toModel.unpack <;> rw [hdivisor] at hshape <;> cases hshape <;> rfl
  · cases hdivisor : y.toModel.unpack <;> rw [hdivisor] at hshape <;> cases hshape
    · exact .inl (unpack_div_of_zero (by rw [hunpack, hdivisor]; rfl))
    · exact .inr (pos_iff.mp (div_pos hunpack hleast hdivisor))

end Grader.Decimal
