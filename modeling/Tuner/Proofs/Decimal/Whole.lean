import Mathlib
import Tuner.Proofs.Json.Shape

/-!
# Whole numbers as doubles

An integer of 64 bits is far from the largest double, so the double nearest to it is finite. The
conversion rounds, packs the result into bits, and multiplies by a power of ten that is one. None of
this raises the exponent by much: `Below` is a bound on it, and each part of the conversion has one
lemma on what becomes of the bound.
-/

namespace Tuner.Decimal

open Float.Model Float.Model.UnpackedFloat

/-- A finite number whose exponent stays up to a bound. -/
inductive Below (bound : Int) : UnpackedFloat → Prop where
  | zero (s : Sign) : Below bound (.zero s)
  | finite {s : Sign} {m : Nat} {e : Int} {hm : 0 < m} (he : e ≤ bound) :
      Below bound (.finite s m e hm)

variable {bound : Int} {f : UnpackedFloat} {m k : Nat} {e : Int}

theorem Below.isFinite (h : Below bound f) : f.isFinite = true := by
  cases h <;> rfl

theorem Below.neg (h : Below bound f) : Below bound f.neg := by
  cases h with
  | zero s => exact .zero _
  | finite he => exact .finite he

/-! ## Packing -/

/-- Bits stand for a finite number unless their exponent is the largest one. -/
theorem below_unpack {sign : Sign} {exponent : BitVec 11} (mantissa : BitVec 52)
    (hfinite : exponent.toNat < 2047) (hlow : -1074 ≤ bound)
    (hbound : (exponent.toNat : Int) - 1075 ≤ bound) :
    Below bound (UnpackedFloat.unpack .binary64
      (packComponents .binary64 sign exponent mantissa)) := by
  have hbias : ((Format.binary64.exponentBias : Nat) : Int) = 1023 := rfl
  have hplaces : ((Format.binary64.mantissaBitsWithoutImplicit : Nat) : Int) = 52 := rfl
  -- the largest exponent is the one with all bits set
  have hne : exponent ≠ -1#11 := by
    rintro rfl
    exact absurd hfinite (by decide)
  rw [UnpackedFloat.unpack]
  simp only [unpackMantissa_packComponents, unpackExponent_packComponents]
  rw [if_neg hne]
  split
  · rename_i hzero
    -- an exponent of zero: no digits at all, or a subnormal number
    split
    · exact .zero _
    · refine .finite ?_
      rw [hzero, hbias, hplaces]
      exact hlow
  · refine .finite ?_
    rw [hbias, hplaces]
    omega

/-- A bound that leaves room for the bias of the exponent is kept by packing into bits. -/
theorem Below.pack (h : Below bound f) (hlow : -1074 ≤ bound) (hhigh : bound ≤ 970) :
    Below bound (Float.Model.pack f).unpack := by
  show Below bound (UnpackedFloat.unpack .binary64 (UnpackedFloat.pack .binary64 f))
  cases h with
  | zero s => exact below_unpack 0 (by decide) hlow (Int.le_trans (by decide) hlow)
  | @finite s m e hm he =>
    have hbiased : e + Format.binary64.exponentBias + Format.binary64.mantissaBitsWithoutImplicit =
        e + 1075 := by
      show e + (1023 : Nat) + (52 : Nat) = e + 1075
      omega
    -- there are eleven bits for the exponent
    have hroom : ¬ 2048 ≤ (e + 1075).toNat + 1 := by omega
    have hbits : (BitVec.ofNat 11 (e + 1075).toNat).toNat = (e + 1075).toNat := by
      rw [BitVec.toNat_ofNat]
      omega
    rw [UnpackedFloat.pack]
    simp only [hbiased]
    rw [if_neg hroom]
    split
    · exact below_unpack _ (by omega) hlow (by omega)
    · exact below_unpack _ (by decide) hlow (Int.le_trans (by decide) hlow)

/-- The digits that bits stand for are no more than a double has. -/
theorem mantissa_unpack_lt {bits : BitVec 64} {s : Sign} {hm : 0 < m}
    (h : UnpackedFloat.unpack .binary64 bits = .finite s m e hm) : m < 2 ^ 53 := by
  have hplaces : (@unpackMantissa .binary64 bits).toNat < 2 ^ 52 :=
    (@unpackMantissa .binary64 bits).isLt
  rw [UnpackedFloat.unpack] at h
  split at h
  · split at h <;> cases h
  · split at h
    · split at h
      · cases h
      · obtain ⟨-, rfl, -⟩ := UnpackedFloat.finite.inj h
        omega
    · obtain ⟨-, rfl, -⟩ := UnpackedFloat.finite.inj h
      exact (1#1 ++ @unpackMantissa .binary64 bits).isLt

/-! ## Rounding -/

/-- Digits that are shifted to the right become no more. -/
theorem mantissa_shiftRight_le (em : ExtendedMantissa) (n : Nat) :
    (em >>> n).mantissa ≤ em.mantissa := by
  show (Nat.repeat ExtendedMantissa.shiftRightOne n em).mantissa ≤ em.mantissa
  induction n with
  | zero => exact Nat.le_refl _
  | succ n ih =>
    rw [Nat.repeat]
    exact Nat.le_trans (Nat.div_le_self _ 2) ih

/-- Rounding adds one at most. -/
theorem roundedMantissa_le (em : ExtendedMantissa) : em.roundedMantissa ≤ em.mantissa + 1 := by
  obtain ⟨m, round, sticky⟩ := em
  cases round <;> cases sticky <;>
    simp only [ExtendedMantissa.roundedMantissa, ExtendedMantissa.accuracy,
      Accuracy.roundToNearestEven] <;> omega

/-- The digits are shifted by no more than there are of them. -/
theorem exponent_shiftToTargetExponent_le (accuracy : Accuracy) (hm : m < 2 ^ (k + 1)) :
    (shiftToTargetExponent .binary64 m e accuracy).2 ≤ max e (-1074) + k := by
  have hlog : m.log2 ≤ k := by
    by_cases hzero : m = 0
    · subst hzero
      exact Nat.zero_le _
    · exact Nat.le_of_lt_succ ((Nat.log2_lt hzero).mpr hm)
  show e + ((max ((m.log2 + 1 + e) - (53 : Nat)) (-1074) - e).toNat : Int) ≤ _
  omega

/-- Rounding shifts twice, and each shift adds at most the number of digits to the exponent. -/
theorem below_roundWithAccuracy {s : Sign} (hm : m < 2 ^ k)
    (hbound : max e (-1074) + 2 * k ≤ bound) :
    Below bound (roundWithAccuracy .binary64 s m e .exact) := by
  have hfirst : (shiftToTargetExponent .binary64 m e .exact).2 ≤ max e (-1074) + k :=
    exponent_shiftToTargetExponent_le .exact (by rw [Nat.pow_succ]; omega)
  have hrounded : (shiftToTargetExponent .binary64 m e .exact).1.roundedMantissa < 2 ^ (k + 1) := by
    have hshift : (shiftToTargetExponent .binary64 m e .exact).1.mantissa ≤ m :=
      mantissa_shiftRight_le ⟨m, false, false⟩ _
    have hround := roundedMantissa_le (shiftToTargetExponent .binary64 m e .exact).1
    rw [Nat.pow_succ]
    omega
  rw [roundWithAccuracy]
  dsimp only
  split
  · exact .zero s
  · have hsecond := exponent_shiftToTargetExponent_le
      (e := (shiftToTargetExponent .binary64 m e .exact).2) .exact hrounded
    exact .finite (by omega)

/-- The digits of a product are the product of the digits, which is then rounded. -/
theorem below_mul {s t : Sign} {m' : Nat} {e' : Int} {hm : 0 < m} {hm' : 0 < m'}
    (hlt : m * m' < 2 ^ k) (hbound : max (e + e') (-1074) + 2 * k ≤ bound) :
    Below bound (UnpackedFloat.mul .binary64 (.finite s m e hm) (.finite t m' e' hm')) :=
  below_roundWithAccuracy hlt hbound

/-! ## Whole numbers -/

/-- A number with no more digits than a double is moved up and rounded, with nothing to round. -/
theorem below_ofNat {n : Nat} (hn : n < 2 ^ 53) :
    Below 210 (Float.Model.ofNat n).unpack := by
  refine Below.pack ?_ (by decide) (by decide)
  obtain rfl | hpos := Nat.eq_zero_or_pos n
  · exact .zero _
  · have hcompare : compare (n : Int) 0 = .gt := by
      rw [Int.compare_eq_gt]
      omega
    show Below 210 (UnpackedFloat.normalize .binary64 (n : Int) 0 .positive)
    rw [UnpackedFloat.normalize, hcompare]
    dsimp only
    rw [UnpackedFloat.round, decreaseExponent]
    -- The digits move up until there are as many as in a double, by at most 52 places.
    generalize hj : ((0 : Int) - Format.binary64.targetExponent _).toNat = j
    have hj52 : j ≤ 52 := by
      rw [← hj]
      show ((0 : Int) - max ((Nat.log2 _ + 1 + (0 : Int)) - (53 : Nat)) (-1074)).toNat ≤ 52
      omega
    have hlt : n <<< j < 2 ^ 105 := by
      rw [Nat.shiftLeft_eq]
      calc n * 2 ^ j < 2 ^ 53 * 2 ^ j := Nat.mul_lt_mul_of_pos_right hn (Nat.two_pow_pos j)
        _ ≤ 2 ^ 53 * 2 ^ 52 := Nat.mul_le_mul_left _ (Nat.pow_le_pow_right (by decide) hj52)
        _ = 2 ^ 105 := by decide
    exact below_roundWithAccuracy hlt (by omega)

/-- A product with one, which is given by its bits. -/
theorem below_mul_one {x : Float.Model} (h : Below 210 x.unpack) :
    Below 400 (x * (Float.ofBits 0x3FF0000000000000).toModel).unpack := by
  have hone : (Float.ofBits 0x3FF0000000000000).toModel.unpack =
      .finite .positive (2 ^ 52) (-52) (by decide) := by rfl
  refine Below.pack ?_ (by decide) (by decide)
  rw [hone]
  cases hx : x.unpack with
  | zero s => exact .zero _
  | infinity s =>
    rw [hx] at h
    cases h
  | notANumber =>
    rw [hx] at h
    cases h
  | finite s m e hm =>
    rw [hx] at h
    cases h with
    | finite he =>
      have hlt : m * 2 ^ 52 < 2 ^ 105 := by
        have hm53 := mantissa_unpack_lt hx
        omega
      exact below_mul hlt (by omega)

/-- A natural number with as many zeros behind it as a double has digits. -/
theorem below_ofScientific {n : Nat} (hpos : n ≠ 0) (hn : n < 2 ^ 64) :
    Below 400 (Float.Model.ofScientific n 0).unpack := by
  have hsmall : ¬ (0 : Int) < -((2 ^ Format.binary64.exponentBits : Int) + n.log2) := by
    show ¬ (0 : Int) < -((2 : Int) ^ 11 + n.log2)
    omega
  have hdigits : n <<< Format.binary64.mantissaBits * 10 ^ (0 : Int).toNat < 2 ^ 117 := by
    have hplaces : Format.binary64.mantissaBits = 53 := rfl
    rw [hplaces, Nat.shiftLeft_eq, Int.toNat_zero, Nat.pow_zero]
    omega
  refine Below.pack ?_ (by decide) (by decide)
  rw [UnpackedFloat.ofScientific, dif_neg hpos, if_neg (by decide), if_neg hsmall,
    if_pos (by decide)]
  exact below_mul hdigits (by decide)

/-- A natural number of 64 bits is converted by one of two ways, which depends on how many digits it
has. -/
theorem below_toModel_ofNat {n : Nat} (hn : n < 2 ^ 64) :
    Below 400 (Float.ofNat n).toModel.unpack := by
  show Below 400 (Float.ofScientific n false 0).toModel.unpack
  rw [Float.ofScientific]
  split
  · rename_i hsmall
    have hword : (Nat.toUInt64 n).toNat = n := Nat.mod_eq_of_lt hn
    have hfloat : (Nat.toUInt64 n).toFloat.toModel = Float.Model.ofNat n := by
      show Float.Model.ofNat (Nat.toUInt64 n).toNat = Float.Model.ofNat n
      rw [hword]
    show Below 400 ((Nat.toUInt64 n).toFloat.toModel * _).unpack
    rw [hfloat]
    exact below_mul_one (below_ofNat hsmall.1)
  · rename_i hlarge
    exact below_ofScientific (by omega) hn

/-- **An integer of 64 bits is finite as a double.** -/
theorem isFinite_ofInt {n : Int} (h : Number.InRange (.integer n)) :
    (Float.ofInt n).isFinite = true := by
  obtain ⟨hlow, hhigh⟩ := h
  cases n with
  | ofNat n =>
    have hword : n < 2 ^ 64 := Int.ofNat_lt.mp hhigh
    exact (below_toModel_ofNat hword).isFinite
  | negSucc n =>
    have hword : n + 1 < 2 ^ 64 := by
      rw [Word.signedLimit] at hlow
      omega
    -- a negative number is the negation of a natural one
    have hneg : Below 400 (Float.ofNat (n + 1)).neg.toModel.unpack :=
      (below_toModel_ofNat hword).neg.pack (by decide) (by decide)
    exact hneg.isFinite

end Tuner.Decimal
