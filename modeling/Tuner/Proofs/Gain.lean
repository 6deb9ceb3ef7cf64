import Mathlib.Algebra.Order.Field.Rat
import Mathlib.Order.Monotone.Union
import Mathlib.Tactic.FieldSimp
import Mathlib.Tactic.NormNum
import Mathlib.Tactic.Positivity
import Mathlib.Tactic.Ring
import Tuner.Gain

/-!
# The two directions of the gain slider

The curve bends at the middle of the slider, which is 0 dB, and it is level beyond both ends. On
either side of the middle it is one line, and so is the way back. These lines are
`ofPercent_lower`, `ofPercent_upper`, `toPercent_lower` and `toPercent_upper`, and nothing behind
them opens the definitions. The middle lies on both sides, so the halves can be joined there: what
rises on each side rises, and since the middle leads to the middle (`ofPercent_middle`,
`toPercent_middle`), neither direction leads from one side to the other.

Under a ceiling that is not above zero the upper half is level at 0 dB (`toPercent_level`). What the
slider shows there cannot be told from the middle, and so it does not come back.
-/

namespace Tuner.Gain

/-! ## Bounds -/

theorem atLeast_eq_max (low x : ℚ) : atLeast low x = max low x := by
  rw [atLeast]
  split
  · next h => exact (max_eq_right h.le).symm
  · next h => exact (max_eq_left (not_lt.mp h)).symm

theorem atMost_eq_min (high x : ℚ) : atMost high x = min high x := by
  rw [atMost]
  split
  · next h => exact (min_eq_right h.le).symm
  · next h => exact (min_eq_left (not_lt.mp h)).symm

/-- On the rationals the three cases of a clamp are a maximum and a minimum. On doubles they also
say what becomes of NaN, and that is not the matter here. -/
theorem clamp_eq_max_min {low high : ℚ} (h : low ≤ high) (x : ℚ) :
    clamp low high x = max low (min high x) := by
  rw [clamp]
  split
  · next hlow => rw [min_eq_right (hlow.le.trans h), max_eq_left hlow.le]
  · next hlow =>
    split
    · next hhigh => rw [min_eq_left hhigh.le, max_eq_right h]
    · next hhigh => rw [min_eq_right (not_lt.mp hhigh), max_eq_right (not_lt.mp hlow)]

variable {percent gain ceiling : ℚ}

/-! ## The lines -/

/-- Up to the middle the slider rises from −40 dB to 0 dB, under any ceiling. -/
theorem ofPercent_lower (h : percent ≤ 50) :
    ofPercent percent ceiling = max 0 percent / 50 * 40 - 40 := by
  have hclamp : clamp 0 100 percent = max 0 percent := by
    rw [clamp_eq_max_min (by norm_num), min_eq_right (h.trans (by norm_num))]
  rw [ofPercent, hclamp, if_pos (max_le (by norm_num) h), lowest]
  ring

theorem ofPercent_middle (ceiling : ℚ) : ofPercent 50 ceiling = 0 := by
  rw [ofPercent_lower le_rfl, max_eq_right (by norm_num)]
  norm_num

/-- From the middle on it rises to the ceiling. -/
theorem ofPercent_upper (h : 50 ≤ percent) :
    ofPercent percent ceiling = (min 100 percent - 50) / 50 * max 0 ceiling := by
  have hmin : 50 ≤ min 100 percent := le_min (by norm_num) h
  have hclamp : clamp 0 100 percent = min 100 percent := by
    rw [clamp_eq_max_min (by norm_num), max_eq_right (le_trans (by norm_num) hmin)]
  rw [ofPercent, hclamp, atLeast_eq_max]
  split
  · next hmiddle =>
    -- Only the middle is left of the lower half, and both lines are at 0 dB there.
    rw [le_antisymm hmiddle hmin, lowest]
    ring
  · rfl

/-- Up to 0 dB the way back is the lower line, with all gains below −40 dB at its end. -/
theorem toPercent_lower (h : gain ≤ 0) :
    toPercent gain ceiling = (max (-40) gain + 40) / 40 * 50 := by
  rw [toPercent, if_pos h, atLeast_eq_max, lowest, sub_neg_eq_add]

theorem toPercent_middle (ceiling : ℚ) : toPercent 0 ceiling = 50 := by
  rw [toPercent_lower le_rfl, max_eq_right (by norm_num)]
  norm_num

/-- From 0 dB on it is the upper line, if the ceiling leaves one. -/
theorem toPercent_upper (h : 0 ≤ gain) (hceiling : 0 < ceiling) :
    toPercent gain ceiling = 50 + min ceiling gain / ceiling * 50 := by
  rcases h.eq_or_lt with rfl | hgain
  · -- Of the two halves 0 dB counts as the lower one, and both lines are at the middle there.
    rw [toPercent_middle, min_eq_right hceiling.le]
    norm_num
  · rw [toPercent, if_neg hgain.not_ge, atLeast_eq_max, max_eq_right hceiling.le, if_pos hceiling,
      atMost_eq_min]

/-- With no room above 0 dB the slider stops at the middle. -/
theorem toPercent_level (h : 0 ≤ gain) (hceiling : ceiling ≤ 0) : toPercent gain ceiling = 50 := by
  rcases h.eq_or_lt with rfl | hgain
  · exact toPercent_middle ceiling
  · rw [toPercent, if_neg hgain.not_ge, atLeast_eq_max, max_eq_left hceiling, if_neg (lt_irrefl 0)]

/-! ## Beyond the ends -/

theorem ofPercent_of_nonpos (h : percent ≤ 0) : ofPercent percent ceiling = -40 := by
  rw [ofPercent_lower (h.trans (by norm_num)), max_eq_left h]
  norm_num

theorem ofPercent_of_full (h : 100 ≤ percent) : ofPercent percent ceiling = max 0 ceiling := by
  rw [ofPercent_upper (le_trans (by norm_num) h), min_eq_left h]
  ring

theorem toPercent_of_le_lowest (h : gain ≤ -40) : toPercent gain ceiling = 0 := by
  rw [toPercent_lower (h.trans (by norm_num)), max_eq_left h]
  norm_num

theorem toPercent_of_full (h : ceiling ≤ gain) (hceiling : 0 < ceiling) :
    toPercent gain ceiling = 100 := by
  rw [toPercent_upper (hceiling.le.trans h) hceiling, min_eq_left h, div_self hceiling.ne']
  norm_num

/-! ## Order -/

/-- More of the slider is never less gain. Each half rises, and the middle belongs to both. -/
theorem monotone_ofPercent (ceiling : ℚ) :
    Monotone fun percent : ℚ => ofPercent percent ceiling := by
  have hlower : MonotoneOn (fun percent : ℚ => ofPercent percent ceiling) (Set.Iic 50) := by
    intro p hp q hq h
    dsimp only
    rw [ofPercent_lower hp, ofPercent_lower hq]
    gcongr
  have hupper : MonotoneOn (fun percent : ℚ => ofPercent percent ceiling) (Set.Ici 50) := by
    intro p hp q hq h
    dsimp only
    rw [ofPercent_upper hp, ofPercent_upper hq]
    gcongr
  exact hlower.Iic_union_Ici hupper

/-- The way back rises too, and where the ceiling leaves no upper line it stays level. -/
theorem monotone_toPercent (ceiling : ℚ) :
    Monotone fun gain : ℚ => toPercent gain ceiling := by
  have hlower : MonotoneOn (fun gain : ℚ => toPercent gain ceiling) (Set.Iic 0) := by
    intro x hx y hy h
    dsimp only
    rw [toPercent_lower hx, toPercent_lower hy]
    gcongr
  have hupper : MonotoneOn (fun gain : ℚ => toPercent gain ceiling) (Set.Ici 0) := by
    intro x hx y hy h
    dsimp only
    rcases lt_or_ge 0 ceiling with hceiling | hceiling
    · rw [toPercent_upper hx hceiling, toPercent_upper hy hceiling]
      gcongr
    · rw [toPercent_level hx hceiling, toPercent_level hy hceiling]
  exact hlower.Iic_union_Ici hupper

theorem ofPercent_nonpos (h : percent ≤ 50) : ofPercent percent ceiling ≤ 0 :=
  (monotone_ofPercent ceiling h).trans_eq (ofPercent_middle ceiling)

theorem ofPercent_nonneg (h : 50 ≤ percent) : 0 ≤ ofPercent percent ceiling :=
  (ofPercent_middle ceiling).symm.trans_le (monotone_ofPercent ceiling h)

theorem toPercent_le_middle (h : gain ≤ 0) : toPercent gain ceiling ≤ 50 :=
  (monotone_toPercent ceiling h).trans_eq (toPercent_middle ceiling)

theorem middle_le_toPercent (h : 0 ≤ gain) : 50 ≤ toPercent gain ceiling :=
  (toPercent_middle ceiling).symm.trans_le (monotone_toPercent ceiling h)

/-- The gains of the slider lie between those of its ends. -/
theorem ofPercent_mem (percent ceiling : ℚ) :
    ofPercent percent ceiling ∈ Set.Icc (-40) (max 0 ceiling) := by
  -- Every percentage has one beside it that is beyond the end, where the curve is level.
  constructor
  · calc (-40 : ℚ) = ofPercent (min 0 percent) ceiling :=
          (ofPercent_of_nonpos (min_le_left _ _)).symm
      _ ≤ ofPercent percent ceiling := monotone_ofPercent ceiling (min_le_right _ _)
  · calc ofPercent percent ceiling ≤ ofPercent (max 100 percent) ceiling :=
          monotone_ofPercent ceiling (le_max_right _ _)
      _ = max 0 ceiling := ofPercent_of_full (le_max_left _ _)

/-- The slider is never moved beyond its ends. -/
theorem toPercent_mem (gain ceiling : ℚ) : toPercent gain ceiling ∈ Set.Icc 0 100 := by
  constructor
  · calc (0 : ℚ) = toPercent (min (-40) gain) ceiling :=
          (toPercent_of_le_lowest (min_le_left _ _)).symm
      _ ≤ toPercent gain ceiling := monotone_toPercent ceiling (min_le_right _ _)
  · rcases lt_or_ge 0 ceiling with hceiling | hceiling
    · calc toPercent gain ceiling ≤ toPercent (max ceiling gain) ceiling :=
            monotone_toPercent ceiling (le_max_right _ _)
        _ = 100 := toPercent_of_full (le_max_left _ _) hceiling
    · calc toPercent gain ceiling ≤ toPercent (max 0 gain) ceiling :=
            monotone_toPercent ceiling (le_max_right _ _)
        _ = 50 := toPercent_level (le_max_left _ _) hceiling
        _ ≤ 100 := by norm_num

/-! ## There and back -/

/-- In the lower half a percentage comes back as it was, or as 0 from below. -/
theorem toPercent_ofPercent_lower (h : percent ≤ 50) :
    toPercent (ofPercent percent ceiling) ceiling = max 0 percent := by
  rw [toPercent_lower (ofPercent_nonpos h), max_eq_right (ofPercent_mem percent ceiling).1,
    ofPercent_lower h]
  ring

theorem toPercent_ofPercent_upper (h : 50 ≤ percent) (hceiling : 0 < ceiling) :
    toPercent (ofPercent percent ceiling) ceiling = min 100 percent := by
  have hgain : ofPercent percent ceiling ≤ ceiling :=
    (ofPercent_mem percent ceiling).2.trans_eq (max_eq_right hceiling.le)
  rw [toPercent_upper (ofPercent_nonneg h) hceiling, min_eq_right hgain, ofPercent_upper h,
    max_eq_right hceiling.le]
  field_simp
  ring

/-- **A percentage comes back** under a ceiling above zero, moved into the range of the slider. -/
theorem toPercent_ofPercent (hceiling : 0 < ceiling) (percent : ℚ) :
    toPercent (ofPercent percent ceiling) ceiling = max 0 (min 100 percent) := by
  rcases le_total percent 50 with h | h
  · rw [toPercent_ofPercent_lower h, min_eq_right (h.trans (by norm_num))]
  · have hmin : 50 ≤ min 100 percent := le_min (by norm_num) h
    rw [toPercent_ofPercent_upper h hceiling, max_eq_right (le_trans (by norm_num) hmin)]

/-- Without such a ceiling it comes back no higher than the middle. -/
theorem toPercent_ofPercent_level (hceiling : ceiling ≤ 0) (percent : ℚ) :
    toPercent (ofPercent percent ceiling) ceiling = min (max 0 (min 100 percent)) 50 := by
  rcases le_total percent 50 with h | h
  · rw [toPercent_ofPercent_lower h, min_eq_right (h.trans (by norm_num)),
      min_eq_left (max_le (by norm_num) h)]
  · -- The upper half is squeezed between the middle and the ceiling.
    have hgain : ofPercent percent ceiling = 0 :=
      le_antisymm ((ofPercent_mem percent ceiling).2.trans_eq (max_eq_left hceiling))
        (ofPercent_nonneg h)
    have hmin : 50 ≤ max 0 (min 100 percent) := le_max_of_le_right (le_min (by norm_num) h)
    rw [hgain, toPercent_middle, min_eq_right hmin]

/-- A gain comes back under every ceiling, as far as it is one of the slider's. -/
theorem ofPercent_toPercent (gain ceiling : ℚ) :
    ofPercent (toPercent gain ceiling) ceiling = max (-40) (min (max 0 ceiling) gain) := by
  rcases le_total gain 0 with h | h
  · rw [ofPercent_lower (toPercent_le_middle h), max_eq_right (toPercent_mem gain ceiling).1,
      toPercent_lower h, min_eq_right (h.trans (le_max_left _ _))]
    ring
  · have hmin : 0 ≤ min (max 0 ceiling) gain := le_min (le_max_left _ _) h
    rw [max_eq_right (le_trans (by norm_num) hmin)]
    -- above 0 dB the ceiling decides: it leaves room, or it does not
    rcases lt_or_ge 0 ceiling with hceiling | hceiling
    · rw [ofPercent_upper (middle_le_toPercent h), min_eq_right (toPercent_mem gain ceiling).2,
        toPercent_upper h hceiling, max_eq_right hceiling.le]
      field_simp
      ring
    · rw [toPercent_level h hceiling, ofPercent_middle, max_eq_left hceiling, min_eq_left h]

/-- What is to be said of the slider under a ceiling. -/
structure Reversible (ceiling : ℚ) : Prop where
  rising : Monotone fun percent : ℚ => ofPercent percent ceiling
  risingBack : Monotone fun gain : ℚ => toPercent gain ceiling
  gainRange : ∀ percent : ℚ, ofPercent percent ceiling ∈ Set.Icc (-40) (max ceiling 0)
  percentRange : ∀ gain : ℚ, toPercent gain ceiling ∈ Set.Icc 0 100
  /-- Under a ceiling above zero a percentage comes back, moved into the range of the slider. -/
  percentBack : 0 < ceiling → ∀ percent : ℚ,
    toPercent (ofPercent percent ceiling) ceiling = max 0 (min 100 percent)
  /-- So does a gain, moved into the range of the curve. -/
  gainBack : 0 < ceiling → ∀ gain : ℚ,
    ofPercent (toPercent gain ceiling) ceiling = max (-40) (min ceiling gain)
  /-- Under any other ceiling a percentage comes back no higher than the middle. -/
  percentBackLevel : ceiling ≤ 0 → ∀ percent : ℚ,
    toPercent (ofPercent percent ceiling) ceiling = min (max 0 (min 100 percent)) 50
  /-- So does a gain, no higher than 0 dB. -/
  gainBackLevel : ceiling ≤ 0 → ∀ gain : ℚ,
    ofPercent (toPercent gain ceiling) ceiling = min (max gain (-40)) 0

/-- **Each direction of the slider undoes the other**, up to where the slider and its ceiling end.
Both rise, and neither leaves the range that the other starts from. -/
theorem slider_reversible (ceiling : ℚ) : Reversible ceiling where
  rising := monotone_ofPercent ceiling
  risingBack := monotone_toPercent ceiling
  gainRange percent := by
    rw [max_comm]
    exact ofPercent_mem percent ceiling
  percentRange gain := toPercent_mem gain ceiling
  percentBack hceiling := toPercent_ofPercent hceiling
  gainBack hceiling gain := by rw [ofPercent_toPercent, max_eq_right hceiling.le]
  percentBackLevel hceiling := toPercent_ofPercent_level hceiling
  gainBackLevel hceiling gain := by
    -- The two bounds are in order, so it makes no difference which of them is applied first.
    have hbounds : max (-40) (0 : ℚ) = 0 := max_eq_right (by norm_num)
    rw [ofPercent_toPercent, max_eq_left hceiling, max_min_distrib_left, hbounds, min_comm,
      max_comm]

/-- Three quarters of the slider are 3 dB under a ceiling of 6 dB, and under one of −3 dB they are
0 dB, which is the middle. -/
theorem slider_reversible_level :
    (0 : ℚ) < 6 ∧ ofPercent (75 : ℚ) 6 = 3 ∧ toPercent (ofPercent (75 : ℚ) 6) 6 = 75 ∧
      ofPercent (toPercent (9 : ℚ) 6) 6 = 6 ∧
      (-3 : ℚ) ≤ 0 ∧ toPercent (ofPercent (75 : ℚ) (-3)) (-3) = 50 ∧
      ofPercent (toPercent (9 : ℚ) (-3)) (-3) = 0 := by
  have habove : (0 : ℚ) < 6 := by norm_num
  have hbelow : (-3 : ℚ) ≤ 0 := by norm_num
  have hsix := slider_reversible 6
  have hthree := slider_reversible (-3)
  refine ⟨habove, by decide +kernel, ?_, ?_, hbelow, ?_, ?_⟩
  · rw [hsix.percentBack habove]
    norm_num
  · rw [hsix.gainBack habove]
    norm_num
  · rw [hthree.percentBackLevel hbelow]
    norm_num
  · rw [hthree.gainBackLevel hbelow]
    norm_num

end Tuner.Gain
