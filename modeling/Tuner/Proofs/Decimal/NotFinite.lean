import Mathlib
import Tuner.Decimal.Numeral

/-!
# Doubles that are not finite

There are three of them: the two infinite ones, and one that is no number. What the bits of a
double stand for tells the double, and it is one of four kinds.
-/

namespace Tuner.Decimal

open Float.Model Float.Model.UnpackedFloat

variable {x y : Float}

/-- A double is what its bits stand for. -/
theorem eq_of_unpack_eq (h : x.toModel.unpack = y.toModel.unpack) : x = y :=
  Float.toBits_inj.mp (UInt64.toBitVec_inj.mp
    ((unpack_inj_of_valid x.toModel.valid y.toModel.valid).mp h))

/-- Only zero is equal to another double. -/
theorem eq_infinity_of_beq (h : (x == infinity) = true) : x = infinity := by
  obtain ⟨-, -, heq | ⟨-, heq⟩ | ⟨-, heq⟩⟩ := Float.beq_iff_ne_nan_and_eq.mp h
  · exact heq
  · exact absurd heq (by decide +kernel)
  · exact absurd heq (by decide +kernel)

/-- **A double that is not finite is one of three.** -/
theorem eq_of_isFinite_eq_false (h : x.isFinite = false) :
    x = notANumber ∨ x = infinity ∨ x = -infinity := by
  have hfinite : x.toModel.unpack.isFinite = false := h
  cases hx : x.toModel.unpack with
  | notANumber => exact .inl (eq_of_unpack_eq (hx.trans rfl))
  | infinity s =>
    cases s with
    | positive => exact .inr (.inl (eq_of_unpack_eq (hx.trans rfl)))
    | negative => exact .inr (.inr (eq_of_unpack_eq (hx.trans rfl)))
  | zero s =>
    rw [hx] at hfinite
    cases hfinite
  | finite s m e hm =>
    rw [hx] at hfinite
    cases hfinite

end Tuner.Decimal
