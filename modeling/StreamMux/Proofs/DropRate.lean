/-
How two counters become a ratio in doubles. Each is rounded to 53 bits, ties to
even, and so is the quotient. Rounding keeps the order of the counts, and what
is not above its divisor has a quotient that rounds to at most one.
-/
import StreamMux.Stats
import Mathlib

namespace StreamMux.Double

open Float.Model Float.Model.UnpackedFloat

/-- A positive double with all 53 bits of its mantissa in use: `mantissa * 2 ^ exponent`. -/
structure Normal where
  mantissa : Nat
  exponent : Int
  low : 2 ^ 52 ≤ mantissa
  high : mantissa < 2 ^ 53

namespace Normal

theorem mantissa_pos (x : Normal) : 0 < x.mantissa := Nat.lt_of_lt_of_le (Nat.two_pow_pos 52) x.low

/-- The same number as the runtime's model of doubles has it. -/
def float (x : Normal) : UnpackedFloat := .finite .positive x.mantissa x.exponent x.mantissa_pos

/-- The order of the numbers. -/
protected def le (x y : Normal) : Prop :=
  x.exponent < y.exponent ∨ x.exponent = y.exponent ∧ x.mantissa ≤ y.mantissa

instance : LE Normal := ⟨Normal.le⟩

def one : Normal := ⟨2 ^ 52, -52, by decide, by decide⟩

theorem log2_mantissa (x : Normal) : x.mantissa.log2 = 52 :=
  (Nat.log2_eq_iff x.mantissa_pos.ne').mpr ⟨x.low, x.high⟩

theorem le_iff (x y : Normal) : UnpackedFloat.le x.float y.float = true ↔ x ≤ y := by
  show ((compare x.exponent y.exponent).then (compare x.mantissa y.mantissa)).isLE = true ↔
    Normal.le x y
  rw [Normal.le]
  rcases Int.lt_trichotomy x.exponent y.exponent with h | h | h
  · simp [Int.compare_eq_lt.mpr h, h]
  · simp [h, Nat.isLE_compare]
  · have hne : x.exponent ≠ y.exponent := by omega
    have hnot : ¬ x.exponent < y.exponent := by omega
    simp [Int.compare_eq_gt.mpr h, hne, hnot]

theorem pack_float (x : Normal) {biased : Nat} (hb : x.exponent = biased - 1075)
    (hhigh : biased + 1 < 2 ^ 11) : UnpackedFloat.pack Format.binary64 x.float =
      packComponents Format.binary64 .positive (BitVec.ofNat 11 biased)
        (BitVec.ofNat 52 x.mantissa) := by
  have hbiased : (x.exponent + (Format.binary64.exponentBias : Nat) +
      (Format.binary64.mantissaBitsWithoutImplicit : Nat)).toNat = biased := by
    rw [hb, show Format.binary64.exponentBias = 1023 from rfl]
    show ((biased : Int) - 1075 + (1023 : Nat) + (52 : Nat)).toNat = biased
    omega
  rw [float, UnpackedFloat.pack]
  simp only [hbiased, x.log2_mantissa]
  rw [if_neg (Nat.not_le_of_lt hhigh), if_pos (show 52 + 1 = Format.binary64.mantissaBits from rfl)]

/-- The first bit of the mantissa need not be kept. -/
theorem toNat_mantissa (x : Normal) : (1#1 ++ BitVec.ofNat 52 x.mantissa).toNat = x.mantissa := by
  have hlow := x.low
  have hhigh := x.high
  rw [BitVec.toNat_append, ← Nat.shiftLeft_add_eq_or_of_lt (BitVec.isLt _), BitVec.toNat_ofNat]
  simp only [BitVec.toNat_ofNat, Nat.shiftLeft_eq]
  omega

/-- A number within the range of doubles comes back from its bits. -/
theorem unpack_pack (x : Normal) (hlow : -1074 ≤ x.exponent) (hhigh : x.exponent ≤ 971) :
    UnpackedFloat.unpack Format.binary64 (UnpackedFloat.pack Format.binary64 x.float) =
      x.float := by
  obtain ⟨biased, hb⟩ : ∃ biased : Nat, x.exponent = biased - 1075 :=
    ⟨(x.exponent + 1075).toNat, by omega⟩
  have hexponent : (BitVec.ofNat 11 biased).toNat = biased := by
    rw [BitVec.toNat_ofNat, Nat.mod_eq_of_lt (by omega)]
  have hnonzero : BitVec.ofNat 11 biased ≠ 0#11 := fun h => by
    have := congrArg BitVec.toNat h
    simp only [hexponent, BitVec.toNat_zero] at this
    omega
  have hfinite : BitVec.ofNat 11 biased ≠ -1#11 := fun h => by
    have := congrArg BitVec.toNat h
    simp only [hexponent, BitVec.neg_one_eq_allOnes, BitVec.toNat_allOnes] at this
    omega
  rw [x.pack_float hb (by omega), UnpackedFloat.unpack]
  simp only [unpackMantissa_packComponents, unpackExponent_packComponents,
    unpackSign_packComponents, Sign.ofBitVec_toBitVec]
  rw [if_neg hfinite, if_neg hnonzero]
  simp only [hexponent, x.toNat_mantissa, float]
  congr 1
  rw [hb]
  rfl

end Normal

/-! ## Rounding -/

/-- Where a mantissa with its residual bits stands, in steps of a quarter. -/
def position (em : ExtendedMantissa) : Nat :=
  4 * em.mantissa + 2 * em.roundBit.toNat + em.stickyBit.toNat

theorem shiftRight_succ (em : ExtendedMantissa) (k : Nat) :
    em >>> (k + 1) = (em >>> k).shiftRightOne := rfl

theorem position_shiftRight_le {a b : ExtendedMantissa} (h : position a ≤ position b) (k : Nat) :
    position (a >>> k) ≤ position (b >>> k) := by
  induction k with
  | zero => exact h
  | succ k ih =>
    rw [shiftRight_succ, shiftRight_succ]
    -- Halving keeps the order, and so does marking that something was cut off.
    generalize a >>> k = a at ih ⊢
    generalize b >>> k = b at ih ⊢
    obtain ⟨m, r, t⟩ := a
    obtain ⟨m', r', t'⟩ := b
    have hm : ((m % 2 != 0).toNat : Nat) = m % 2 := by rcases Nat.mod_two_eq_zero_or_one m with h |
      h <;> simp [h]
    have hm' : ((m' % 2 != 0).toNat : Nat) = m' % 2 := by
      rcases Nat.mod_two_eq_zero_or_one m' with h | h <;> simp [h]
    simp only [position, ExtendedMantissa.shiftRightOne, hm, hm'] at ih ⊢
    cases r <;> cases t <;> cases r' <;> cases t' <;>
      simp only [Bool.toNat_false, Bool.toNat_true, Bool.or_false, Bool.or_true] at ih ⊢ <;> omega

theorem roundedMantissa_le {a b : ExtendedMantissa} (h : position a ≤ position b) :
    a.roundedMantissa ≤ b.roundedMantissa := by
  obtain ⟨m, r, t⟩ := a
  obtain ⟨m', r', t'⟩ := b
  simp only [position] at h
  cases r <;> cases t <;> cases r' <;> cases t' <;>
    simp only [Bool.toNat_false, Bool.toNat_true, ExtendedMantissa.roundedMantissa,
      ExtendedMantissa.accuracy, Accuracy.roundToNearestEven] at h ⊢ <;> omega

theorem roundedMantissa_bounds (em : ExtendedMantissa) :
    em.mantissa ≤ em.roundedMantissa ∧ em.roundedMantissa ≤ em.mantissa + 1 := by
  obtain ⟨m, r, t⟩ := em
  cases r <;> cases t <;>
    simp only [ExtendedMantissa.roundedMantissa, ExtendedMantissa.accuracy,
      Accuracy.roundToNearestEven] <;> omega

theorem mantissa_shiftRight (em : ExtendedMantissa) (k : Nat) :
    (em >>> k).mantissa = em.mantissa / 2 ^ k := by
  induction k with
  | zero => exact (Nat.div_one _).symm
  | succ k ih =>
    rw [shiftRight_succ]
    show (em >>> k).mantissa / 2 = _
    rw [ih, Nat.div_div_eq_div_mul, Nat.pow_succ]

variable {m n q : Nat} {e : Int} {acc : Accuracy}

@[simp] theorem mantissa_ofMantissaAndAccuracy :
    (ExtendedMantissa.ofMantissaAndAccuracy m acc).mantissa = m := by
  rcases acc with _ | _ | _ | _ <;> rfl

/-- The nearest number of units in the last place, for a mantissa of at least 53 bits. -/
def units (m : Nat) (acc : Accuracy) : Nat :=
  (ExtendedMantissa.ofMantissaAndAccuracy m acc >>> (m.log2 - 52)).roundedMantissa

theorem log2_bounds (hm : 2 ^ 52 ≤ m) :
    52 ≤ m.log2 ∧ 2 ^ 52 ≤ m / 2 ^ (m.log2 - 52) ∧ m / 2 ^ (m.log2 - 52) < 2 ^ 53 := by
  have hne : m ≠ 0 := by
    rintro rfl
    exact absurd hm (by decide)
  have hlog : 52 ≤ m.log2 := (Nat.le_log2 hne).mpr hm
  have hself := Nat.log2_self_le hne
  have hlt : m < 2 ^ (m.log2 + 1) := Nat.lt_log2_self
  refine ⟨hlog, ?_, ?_⟩
  · rw [Nat.le_div_iff_mul_le (Nat.two_pow_pos _), ← Nat.pow_add, Nat.add_sub_cancel' hlog]
    exact hself
  · rw [Nat.div_lt_iff_lt_mul (Nat.two_pow_pos _), ← Nat.pow_add,
      show 53 + (m.log2 - 52) = m.log2 + 1 by omega]
    exact hlt

theorem units_bounds (hm : 2 ^ 52 ≤ m) (acc : Accuracy) : 2 ^ 52 ≤ units m acc ∧
    units m acc ≤ 2 ^ 53 := by
  obtain ⟨-, hlow, hhigh⟩ := log2_bounds hm
  obtain ⟨hle, hge⟩ :=
    roundedMantissa_bounds (ExtendedMantissa.ofMantissaAndAccuracy m acc >>> (m.log2 - 52))
  rw [mantissa_shiftRight, mantissa_ofMantissaAndAccuracy] at hle hge
  exact ⟨hlow.trans hle, hge.trans hhigh⟩

/-- So many units in the last place; a mantissa that was rounded up to 54 bits is halved. -/
def Normal.carried (q : Nat) (e : Int) (h : 2 ^ 52 ≤ q) : Normal :=
  if hq : q < 2 ^ 53 then ⟨q, e, h, hq⟩ else ⟨2 ^ 52, e + 1, by decide, by decide⟩

theorem Normal.carried_le {q q' : Nat} {e e' : Int} (h : 2 ^ 52 ≤ q) (h' : 2 ^ 52 ≤ q')
    (hle : e < e' ∨ e = e' ∧ q ≤ q') : Normal.carried q e h ≤ Normal.carried q' e' h' := by
  show Normal.le _ _
  simp only [Normal.le, Normal.carried]
  split <;> split <;> simp only <;> omega

/-- Numbers of at least 53 bits are cut to 53. -/
theorem shiftToTargetExponent_eq (hm : 2 ^ 52 ≤ m) (he : -1074 ≤ e) (acc : Accuracy) :
    shiftToTargetExponent Format.binary64 m e acc =
      (ExtendedMantissa.ofMantissaAndAccuracy m acc >>> (m.log2 - 52),
        e + (m.log2 - 52 : Nat)) := by
  have hlog := (log2_bounds hm).1
  have htarget : Format.binary64.targetExponent (totalExponent m e) - e = (m.log2 - 52 : Nat) := by
    simp only [Format.targetExponent, totalExponent, Format.mantissaBits, Format.minExponent]
    omega
  simp only [shiftToTargetExponent, shiftToExponent, htarget, Int.toNat_natCast]

/-- A carry leaves one bit too many, which is cut without loss. -/
theorem shift_carried (hlow : 2 ^ 52 ≤ q) (hhigh : q ≤ 2 ^ 53) :
    (ExtendedMantissa.ofMantissaAndAccuracy q .exact >>> (q.log2 - 52)).mantissa =
    (Normal.carried q e hlow).mantissa ∧
      e + (q.log2 - 52 : Nat) = (Normal.carried q e hlow).exponent := by
  rw [mantissa_shiftRight, mantissa_ofMantissaAndAccuracy, Normal.carried]
  by_cases hq : q < 2 ^ 53
  · rw [dif_pos hq, (Nat.log2_eq_iff (by omega)).mpr ⟨hlow, hq⟩]
    exact ⟨Nat.div_one q, Int.add_zero e⟩
  · obtain rfl : q = 2 ^ 53 := by omega
    rw [dif_neg hq, Nat.log2_two_pow]
    exact ⟨show 2 ^ 53 / 2 ^ (53 - 52) = 2 ^ 52 by decide, rfl⟩

/-- Rounding to 53 bits. -/
theorem roundWithAccuracy_eq (hm : 2 ^ 52 ≤ m) (he : -1074 ≤ e) (acc : Accuracy) :
    roundWithAccuracy Format.binary64 .positive m e acc =
      (Normal.carried (units m acc) (e + (m.log2 - 52 : Nat)) (units_bounds hm acc).1).float := by
  obtain ⟨hlow, hhigh⟩ := units_bounds hm acc
  have hunits : (ExtendedMantissa.ofMantissaAndAccuracy m acc >>> (m.log2 - 52)).roundedMantissa =
    units m acc := rfl
  have hcarry := shiftToTargetExponent_eq hlow (e := e + (m.log2 - 52 : Nat)) (by omega) .exact
  obtain ⟨hmantissa, hexponent⟩ := shift_carried (e := e + (m.log2 - 52 : Nat)) hlow hhigh
  simp only [roundWithAccuracy, shiftToTargetExponent_eq hm he, hunits, hcarry, hmantissa,
    hexponent, Normal.float]
  exact dif_neg (Nat.pos_iff_ne_zero.mp (Normal.mantissa_pos _))

theorem log2_mul_two_pow (hn : 0 < n) (k : Nat) : (n * 2 ^ k).log2 = n.log2 + k := by
  rw [Nat.log2_eq_iff (Nat.mul_pos hn (Nat.two_pow_pos k)).ne', Nat.pow_add, Nat.add_right_comm,
    Nat.pow_add]
  exact ⟨Nat.mul_le_mul_right _ (Nat.log2_self_le hn.ne'),
    Nat.mul_lt_mul_of_pos_right Nat.lt_log2_self (Nat.two_pow_pos k)⟩

theorem shiftRight_mul (m k : Nat) :
    (⟨m * 2 ^ k, false, false⟩ : ExtendedMantissa) >>> k = ⟨m, false, false⟩ := by
  induction k generalizing m with
  | zero => rw [Nat.pow_zero, Nat.mul_one]; rfl
  | succ k ih =>
    rw [shiftRight_succ, Nat.pow_succ, Nat.mul_comm (2 ^ k), ← Nat.mul_assoc, ih,
      ExtendedMantissa.shiftRightOne]
    simp

/-- Nothing is lost of a number that has 53 bits but for zeros behind them. -/
theorem roundWithAccuracy_mul (x : Normal) (k : Nat) (he : -1074 ≤ e) (hx : x.exponent = e + k) :
    roundWithAccuracy Format.binary64 .positive (x.mantissa * 2 ^ k) e .exact = x.float := by
  have hm : 2 ^ 52 ≤ x.mantissa * 2 ^ k :=
    x.low.trans (Nat.le_mul_of_pos_right _ (Nat.two_pow_pos k))
  have hlog : (x.mantissa * 2 ^ k).log2 - 52 = k := by
    rw [log2_mul_two_pow x.mantissa_pos, x.log2_mantissa, Nat.add_sub_cancel_left]
  have hunits : units (x.mantissa * 2 ^ k) .exact = x.mantissa := by
    rw [units, hlog, ExtendedMantissa.ofMantissaAndAccuracy, shiftRight_mul]
    rfl
  rw [roundWithAccuracy_eq hm he]
  simp only [hunits, hlog, Normal.carried, dif_pos x.high, ← hx]

/-! ## Counts -/

theorem le_mul_two_pow (hn : 0 < n) : 2 ^ 52 ≤ n * 2 ^ 53 :=
  (Nat.pow_le_pow_right (by decide) (by decide)).trans (Nat.le_mul_of_pos_left _ hn)

/-- The double nearest to a count. -/
def nearest (n : Nat) (hn : 0 < n) : Normal :=
  .carried (units (n * 2 ^ 53) .exact) (n.log2 - 52) (units_bounds (le_mul_two_pow hn) .exact).1

theorem float_nearest (hn : 0 < n) :
    roundWithAccuracy Format.binary64 .positive (n * 2 ^ 53) (-53) .exact =
      (nearest n hn).float := by
  rw [roundWithAccuracy_eq (le_mul_two_pow hn) (by decide), nearest]
  congr 2
  rw [log2_mul_two_pow hn]
  omega

theorem nearest_le {n' : Nat} (hn : 0 < n) (hle : n ≤ n') :
    nearest n hn ≤ nearest n' (hn.trans_le hle) := by
  have hn' := hn.trans_le hle
  have hlog : n.log2 ≤ n'.log2 := (Nat.le_log2 hn'.ne').mpr ((Nat.log2_self_le hn.ne').trans hle)
  refine Normal.carried_le _ _ ?_
  rcases hlog.lt_or_eq with hlt | heq
  · exact .inl (by omega)
  · refine .inr ⟨by omega, roundedMantissa_le ?_⟩
    rw [log2_mul_two_pow hn, log2_mul_two_pow hn', heq]
    refine position_shiftRight_le ?_ _
    simp only [position, ExtendedMantissa.ofMantissaAndAccuracy]
    omega

theorem nearest_exponent (hn : 0 < n) (hlt : n < 2 ^ 64) :
    -52 ≤ (nearest n hn).exponent ∧ (nearest n hn).exponent ≤ 12 := by
  have hlog : n.log2 < 64 := (Nat.log2_lt hn.ne').mpr hlt
  rw [nearest, Normal.carried]
  split <;> simp only <;> omega

/-- A count below `2 ^ 53`, with zeros behind it. -/
def exactly (n : Nat) (hn : 0 < n) (hlt : n < 2 ^ 53) : Normal where
  mantissa := n * 2 ^ (52 - n.log2)
  exponent := n.log2 - 52
  low := by
    have hlog : n.log2 < 53 := (Nat.log2_lt hn.ne').mpr hlt
    have hfifty : n.log2 + (52 - n.log2) = 52 := by omega
    calc 2 ^ 52 = 2 ^ n.log2 * 2 ^ (52 - n.log2) := by rw [← Nat.pow_add, hfifty]
      _ ≤ n * 2 ^ (52 - n.log2) := Nat.mul_le_mul_right _ (Nat.log2_self_le hn.ne')
  high := by
    have hlog : n.log2 < 53 := (Nat.log2_lt hn.ne').mpr hlt
    calc n * 2 ^ (52 - n.log2) < 2 ^ (n.log2 + 1) * 2 ^ (52 - n.log2) :=
          Nat.mul_lt_mul_of_pos_right Nat.lt_log2_self (Nat.two_pow_pos _)
      _ = 2 ^ 53 := by rw [← Nat.pow_add, show n.log2 + 1 + (52 - n.log2) = 53 by omega]

theorem float_exactly (hn : 0 < n) (hlt : n < 2 ^ 53) :
    (nearest n hn).float = (exactly n hn hlt).float := by
  have hlog : n.log2 < 53 := (Nat.log2_lt hn.ne').mpr hlt
  rw [← float_nearest hn, ← roundWithAccuracy_mul (exactly n hn hlt) (n.log2 + 1) (e := -53)
      (by decide) (by
    show (n.log2 : Int) - 52 = -53 + ((n.log2 + 1 : Nat) : Int)
    omega)]
  congr 1
  show n * 2 ^ 53 = n * 2 ^ (52 - n.log2) * 2 ^ (n.log2 + 1)
  rw [Nat.mul_assoc, ← Nat.pow_add, show 52 - n.log2 + (n.log2 + 1) = 53 by omega]

theorem round_exactly (hn : 0 < n) (hlt : n < 2 ^ 53) :
    UnpackedFloat.round Format.binary64 .positive n 0 = (exactly n hn hlt).float := by
  have hlog : n.log2 < 53 := (Nat.log2_lt hn.ne').mpr hlt
  have htarget : Format.binary64.targetExponent (totalExponent n 0) = n.log2 - 52 := by
    simp only [Format.targetExponent, totalExponent, Format.mantissaBits, Format.minExponent]
    omega
  have hshift : (0 - ((n.log2 : Int) - 52)).toNat = 52 - n.log2 := by omega
  rw [← roundWithAccuracy_mul (exactly n hn hlt) 0 (e := n.log2 - 52) (by omega) (by
    show (n.log2 : Int) - 52 = n.log2 - 52 + ((0 : Nat) : Int)
    omega)]
  simp only [UnpackedFloat.round, htarget, decreaseExponent, hshift, Nat.shiftLeft_eq, exactly,
    Nat.pow_zero, Nat.mul_one]
  congr 1
  omega

/-- A count below `2 ^ 53` is converted as it is. -/
theorem unpack_toFloat (hn : 0 < n) (hlt : n < 2 ^ 53) :
    n.toUInt64.toFloat.toModel.unpack = (exactly n hn hlt).float := by
  have hword : n.toUInt64.toNat = n := Nat.mod_eq_of_lt (by omega)
  have hlog : n.log2 < 53 := (Nat.log2_lt hn.ne').mpr hlt
  have hround : UnpackedFloat.ofUInt64 Format.binary64 n.toUInt64 = (exactly n hn hlt).float := by
    rw [UnpackedFloat.ofUInt64, hword, UnpackedFloat.ofNat, UnpackedFloat.ofInt,
      UnpackedFloat.normalize, Int.compare_eq_gt.mpr (by omega)]
    exact round_exactly hn hlt
  show UnpackedFloat.unpack _ (UnpackedFloat.pack _ (UnpackedFloat.ofUInt64 _ _)) = _
  rw [hround]
  refine Normal.unpack_pack _ ?_ ?_ <;> simp only [exactly] <;> omega

/-- Its product with one is exact. -/
theorem mul_one_exactly (hn : 0 < n) (hlt : n < 2 ^ 53) :
    UnpackedFloat.mul Format.binary64 (exactly n hn hlt).float Normal.one.float =
      (nearest n hn).float := by
  have hlog : n.log2 < 53 := (Nat.log2_lt hn.ne').mpr hlt
  rw [float_exactly hn hlt]
  exact roundWithAccuracy_mul (exactly n hn hlt) 52 (e := (exactly n hn hlt).exponent + -52)
    (by simp only [exactly]; omega) (by omega)

/-- A count that is too large for that is rounded once. -/
theorem ofScientific_eq (hn : 0 < n) :
    UnpackedFloat.ofScientific Format.binary64 n 0 = (nearest n hn).float := by
  have hsmall : ¬ (0 : Int) < -((2 ^ Format.binary64.exponentBits : Int) + n.log2) := by
    have : (0 : Int) ≤ 2 ^ Format.binary64.exponentBits := by decide
    omega
  rw [UnpackedFloat.ofScientific, dif_neg hn.ne', if_neg (by decide), if_neg hsmall,
    if_pos (by decide), ← float_nearest hn]
  simp only [UnpackedFloat.mul, Nat.shiftLeft_eq, Int.toNat_zero, Nat.pow_zero, Nat.mul_one,
    Int.add_zero]
  rfl

/-- Every count that fits a word is converted to the double nearest to it. -/
theorem unpack_ofNat (hn : 0 < n) (hlt : n < 2 ^ 64) :
    (Float.ofNat n).toModel.unpack = (nearest n hn).float := by
  have hexponent := nearest_exponent hn hlt
  have hback : UnpackedFloat.unpack Format.binary64
      (UnpackedFloat.pack Format.binary64 (nearest n hn).float) =
      (nearest n hn).float := Normal.unpack_pack _ (by omega) (by omega)
  have hofNat : Float.ofNat n = Float.ofScientific n false 0 := rfl
  rw [hofNat, Float.ofScientific]
  split
  next h =>
    have hone : Float.exactlyRepresentablePowersOfTen[0].toModel.unpack = Normal.one.float := rfl
    show UnpackedFloat.unpack _
      (UnpackedFloat.pack _ (UnpackedFloat.mul _ n.toUInt64.toFloat.toModel.unpack
      Float.exactlyRepresentablePowersOfTen[0].toModel.unpack)) = _
    rw [unpack_toFloat hn h.1, hone, mul_one_exactly hn h.1, hback]
  next =>
    show UnpackedFloat.unpack _ (UnpackedFloat.pack _ (UnpackedFloat.ofScientific _ n 0)) = _
    rw [ofScientific_eq hn, hback]

/-! ## Quotients -/

theorem divCore_eq (x y : Normal) (hlow : -1021 ≤ x.exponent - y.exponent) :
    divCore Format.binary64 x.mantissa x.exponent y.mantissa y.exponent =
      (x.mantissa * 2 ^ 53 / y.mantissa, x.exponent - y.exponent - 53,
        accuracyOfFraction (x.mantissa * 2 ^ 53 % y.mantissa) y.mantissa) := by
  have htarget : min (x.exponent - y.exponent) (Format.binary64.targetExponent
      (totalExponent x.mantissa x.exponent - totalExponent y.mantissa y.exponent)) =
          x.exponent - y.exponent - 53 := by
    simp only [Format.targetExponent, totalExponent, x.log2_mantissa, y.log2_mantissa,
      Format.mantissaBits, Format.minExponent]
    omega
  have hshift : (x.exponent - y.exponent - (x.exponent - y.exponent - 53)).toNat = 53 := by omega
  simp only [divCore, htarget, Nat.shiftLeft_eq, hshift]

theorem carried_le_one (h : 2 ^ 52 ≤ q) (he : e ≤ -53) : Normal.carried q e h ≤ Normal.one := by
  show Normal.le _ _
  simp only [Normal.le, Normal.carried, Normal.one]
  split <;> simp only <;> omega

theorem le_exponent_carried (h : 2 ^ 52 ≤ q) : e ≤ (Normal.carried q e h).exponent := by
  simp only [Normal.carried]
  split <;> simp only <;> omega

theorem le_quotient (x y : Normal) : 2 ^ 52 ≤ x.mantissa * 2 ^ 53 / y.mantissa := by
  rw [Nat.le_div_iff_mul_le y.mantissa_pos]
  exact Nat.mul_le_mul x.low y.high.le

theorem div_eq (x y : Normal) (hlow : -1021 ≤ x.exponent - y.exponent) :
    UnpackedFloat.div Format.binary64 x.float y.float =
      roundWithAccuracy Format.binary64 .positive (x.mantissa * 2 ^ 53 / y.mantissa)
        (x.exponent - y.exponent - 53)
        (accuracyOfFraction (x.mantissa * 2 ^ 53 % y.mantissa) y.mantissa) := by
  simp only [Normal.float, UnpackedFloat.div, divCore_eq x y hlow]
  rfl

/-- What is below one is at most one when it has been rounded. -/
theorem round_le_one (hm : 2 ^ 52 ≤ m) (hlow : -1074 ≤ e) (hbits : e + (m.log2 - 52 : Nat) ≤ -53)
    (acc : Accuracy) : ∃ z : Normal, roundWithAccuracy Format.binary64 .positive m e acc = z.float ∧
      -1074 ≤ z.exponent ∧ z ≤ Normal.one := by
  refine ⟨_, roundWithAccuracy_eq hm hlow acc, ?_, carried_le_one _ hbits⟩
  exact Int.le_trans (by omega) (le_exponent_carried _)

/-- The quotient of two numbers, the first not above the second, rounds to at most one. -/
theorem div_le_one {x y : Normal} (hle : x ≤ y) (hx : -52 ≤ x.exponent) (hy : y.exponent ≤ 12) :
    ∃ z : Normal, UnpackedFloat.div Format.binary64 x.float y.float = z.float ∧
      -1074 ≤ z.exponent ∧ z ≤ Normal.one := by
  have hquotient := le_quotient x y
  have hpos : x.mantissa * 2 ^ 53 / y.mantissa ≠ 0 := by omega
  -- The quotient has as many bits as it should, or one more if the first mantissa is the larger
  -- one.
  rcases hle with hexp | ⟨hexp, hm⟩
  · have hhigh : (x.mantissa * 2 ^ 53 / y.mantissa).log2 < 54 := by
      have := x.high
      have := y.low
      rw [Nat.log2_lt hpos, Nat.div_lt_iff_lt_mul y.mantissa_pos]
      omega
    rw [div_eq x y (by omega)]
    exact round_le_one hquotient (by omega) (by omega) _
  · rw [div_eq x y (by omega)]
    rcases hm.lt_or_eq with hlt | heq
    · have hhigh : (x.mantissa * 2 ^ 53 / y.mantissa).log2 < 53 := by
        rw [Nat.log2_lt hpos, Nat.div_lt_iff_lt_mul y.mantissa_pos]
        omega
      exact round_le_one hquotient (by omega) (by omega) _
    · refine ⟨.one, ?_, by decide, .inr ⟨rfl, Nat.le_refl _⟩⟩
      rw [heq, hexp, Nat.mul_div_cancel_left _ y.mantissa_pos, Nat.mul_mod_right, Int.sub_self]
      exact roundWithAccuracy_mul .one 1 (by decide) rfl

theorem le_of_unpack {a b : Float} (h : a.toModel.unpack.le b.toModel.unpack = true) : a ≤ b :=
  decide_eq_true h

theorem unpack_one : (1 : Float).toModel.unpack = Normal.one.float := rfl

/-- None of a count is no share of it. -/
theorem zero_div_le_one (hn : 0 < n) (hlt : n < 2 ^ 64) : Float.ofNat 0 / Float.ofNat n ≤ 1 := by
  have hzero : (Float.ofNat 0).toModel.unpack = .zero .positive := rfl
  refine le_of_unpack ?_
  show UnpackedFloat.le (UnpackedFloat.unpack _ (UnpackedFloat.pack _ (UnpackedFloat.div _
    (Float.ofNat 0).toModel.unpack (Float.ofNat n).toModel.unpack))) _ = true
  have hquotient : UnpackedFloat.div Format.binary64 (.zero .positive) (nearest n hn).float =
    .zero .positive := rfl
  rw [hzero, unpack_ofNat hn hlt, unpack_one, hquotient]
  decide

/-- However counts and their quotient are rounded, the share of a part in the whole is at most
one. -/
theorem ofNat_div_le_one {k : Nat} (hle : k ≤ n) (hn : 0 < n) (hlt : n < 2 ^ 64) :
    Float.ofNat k / Float.ofNat n ≤ 1 := by
  rcases k.eq_zero_or_pos with rfl | hk
  · exact zero_div_le_one hn hlt
  · have hk_exponent := nearest_exponent hk (hle.trans_lt hlt)
    have hn_exponent := nearest_exponent hn hlt
    obtain ⟨z, hz, hlow, hone⟩ := div_le_one (nearest_le hk hle) hk_exponent.1 hn_exponent.2
    have hhigh : z.exponent ≤ 971 := by
      rcases hone with h | ⟨h, -⟩ <;> simp only [Normal.one] at h <;> omega
    refine le_of_unpack ?_
    show UnpackedFloat.le (UnpackedFloat.unpack _ (UnpackedFloat.pack _ (UnpackedFloat.div _
      (Float.ofNat k).toModel.unpack (Float.ofNat n).toModel.unpack))) _ = true
    rw [unpack_ofNat hk (hle.trans_lt hlt), unpack_ofNat hn hlt, unpack_one]
    rw [show UnpackedFloat.div _ _ _ = z.float from hz, Normal.unpack_pack z hlow hhigh]
    exact (Normal.le_iff z .one).mpr hone

end StreamMux.Double

namespace StreamMux.Stats

open Double

/-- The share of messages dropped is at most one, however it is rounded. -/
theorem dropRate_le_one {s : Stats} (h : s.framesDropped ≤ s.framesReceived)
    (hsize : s.framesReceived < 2 ^ 64) : s.dropRate ≤ 1 := by
  rw [dropRate]
  split
  next => decide
  next hreceived => exact ofNat_div_le_one h (Nat.pos_of_ne_zero hreceived) hsize

end StreamMux.Stats
