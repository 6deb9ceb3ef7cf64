import Tuner.Proofs.Json.Numeral
import Tuner.Text.Blank

/-!
# Numbers that a user types

A numeral is a single word: there is something of it and no blank in it, so that it may be typed
wherever a word may. Its characters are those of bare words, whether it has digits or is a name. A
number between two others is not the one that is no number.
-/

namespace Tuner.Decimal

open Number (isBare_of_exponent? isBare_of_mem_spanDigits)
open Json.Token (isBare)

variable {cs : List Char} {c : Char} {text : String} {x : Float}

theorem isAlpha_iff : c.isAlpha = true ↔
    (0x41 ≤ c.toNat ∧ c.toNat ≤ 0x5A) ∨ 0x61 ≤ c.toNat ∧ c.toNat ≤ 0x7A := by
  show (decide (c.val ≥ 0x41 ∧ c.val ≤ 0x5A) ||
    (decide (c.val ≥ 0x61) && decide (c.val ≤ 0x7A))) = true ↔ _
  simp only [Bool.or_eq_true, Bool.and_eq_true, decide_eq_true_iff]
  exact Iff.rfl

theorem isDigit_iff : c.isDigit = true ↔ 0x30 ≤ c.toNat ∧ c.toNat ≤ 0x39 := by
  show (decide (c.val ≥ 0x30) && decide (c.val ≤ 0x39)) = true ↔ _
  simp only [Bool.and_eq_true, decide_eq_true_iff]
  exact Iff.rfl

/-- No character of a bare word is a blank. -/
theorem isBlank_of_isBare (h : isBare c = true) : Text.isBlank c = false := by
  simp only [isBare, Char.isAlphanum, Bool.or_eq_true, beq_iff_eq, isAlpha_iff, isDigit_iff] at h
  simp only [Text.isBlank, Bool.or_eq_false_iff, Bool.and_eq_false_iff, decide_eq_false_iff_not,
    beq_eq_false_iff_ne]
  rcases h with ((h | rfl) | rfl) | rfl
  · -- the blanks of one byte are below the digits, and all others are above the letters
    omega
  all_goals decide

/-- A letter is one in either case. -/
theorem isBare_of_toLower (h : c.toLower.isAlpha = true) : isBare c = true := by
  unfold Char.toLower at h
  split at h
  · next hupper =>
    have hupper : c.isAlpha = true := isAlpha_iff.mpr (.inl hupper)
    simp [isBare, Char.isAlphanum, hupper]
  · simp [isBare, Char.isAlphanum, h]

/-- Digits, a point and a power of ten are all there is to a magnitude. -/
theorem isBare_of_magnitude? (h : magnitude? cs = some x) : ∀ c ∈ cs, isBare c = true := by
  refine isBare_of_mem_spanDigits ?_
  simp only [magnitude?] at h
  -- Behind the digits there is a point with more of them, or the power of ten at once.
  split at h
  · next rest heq =>
    split at h
    · cases h
    · obtain ⟨e, hexponent, -⟩ := Option.map_eq_some_iff.mp h
      rw [heq]
      refine List.forall_mem_cons.mpr ⟨rfl, isBare_of_mem_spanDigits ?_⟩
      exact isBare_of_exponent? hexponent
  · split at h
    · cases h
    · obtain ⟨e, hexponent, -⟩ := Option.map_eq_some_iff.mp h
      exact isBare_of_exponent? hexponent

/-- A name without regard to case is letters only. -/
theorem isBare_of_name (name : List Char) (hname : name.all Char.isAlpha = true)
    (h : String.ofList (cs.map Char.toLower) = String.ofList name) :
    ∀ c ∈ cs, isBare c = true := by
  intro c hc
  refine isBare_of_toLower (List.all_eq_true.mp hname _ ?_)
  rw [← String.ofList_injective h]
  exact List.mem_map_of_mem hc

theorem isBare_of_takeSign (h : ∀ c ∈ (takeSign cs).2, isBare c = true) :
    ∀ c ∈ cs, isBare c = true := by
  unfold takeSign at h
  split at h
  · exact List.forall_mem_cons.mpr ⟨rfl, h⟩
  · exact List.forall_mem_cons.mpr ⟨rfl, h⟩
  · exact h

/-- **What is read as a number has no blanks.** -/
theorem isBlank_of_parse? (h : parse? text = some x) :
    ∀ c ∈ text.toList, Text.isBlank c = false := by
  have hbehind : ∀ c ∈ (takeSign text.toList).2, isBare c = true := by
    simp only [parse?] at h
    split at h
    · next heq => exact isBare_of_name ['i', 'n', 'f'] (by decide) heq
    · next heq =>
      exact isBare_of_name ['i', 'n', 'f', 'i', 'n', 'i', 't', 'y'] (by decide) heq
    · next heq => exact isBare_of_name ['n', 'a', 'n'] (by decide) heq
    · obtain ⟨y, hy, -⟩ := Option.map_eq_some_iff.mp h
      exact isBare_of_magnitude? hy
  exact fun c hc => isBlank_of_isBare (isBare_of_takeSign hbehind c hc)

theorem ne_empty_of_parse? (h : parse? text = some x) : text ≠ "" := by
  rintro rfl
  have hnone : parse? "" = none := by rfl
  rw [hnone] at h
  cases h

/-- Nothing compares with what is no number. -/
theorem isNaN_of_le (h : 0 ≤ x) : x.isNaN = false := by
  have hle : (0 : Float).toModel.unpack.le x.toModel.unpack = true := of_decide_eq_true h
  have hzero : (0 : Float).toModel.unpack = .zero .positive := by rfl
  show x.toModel.unpack.isNaN = false
  rw [hzero] at hle
  cases hx : x.toModel.unpack with
  | notANumber =>
    rw [hx] at hle
    cases hle
  | _ => rfl

end Tuner.Decimal
