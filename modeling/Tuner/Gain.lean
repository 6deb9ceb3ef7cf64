import Tuner.Decimal.Style

/-!
# The gain slider

The slider runs from 0 to 100 percent. Its lower half spans −40 to 0 dB and its upper half spans
0 dB to a ceiling that the player reports, both linearly; a ceiling below zero counts as zero. The
two directions `ofPercent` and `toPercent` undo each other on the slider's range. They are stated
over any ordered arithmetic: the program runs them on doubles, and their laws are read over the
rationals. A value that is no number passes no comparison, which fixes what becomes of it.
-/

namespace Tuner.Gain

section Curve

variable {α : Type} [Add α] [Sub α] [Mul α] [Div α] [Neg α] [∀ n, OfNat α n]
  [LE α] [LT α] [DecidableLE α] [DecidableLT α]

/-- The value if it is above a bound, else the bound: what is no number becomes the bound, and so
does what is only equal to it, such as a zero with a minus sign for the bound zero. -/
def atLeast (low x : α) : α :=
  if low < x then x else low

/-- The value if it is below a bound, else the bound: what is no number becomes the bound, and so
does what is only equal to it. -/
def atMost (high x : α) : α :=
  if x < high then x else high

/-- The value, moved into a range. What is no number stays. -/
def clamp (low high x : α) : α :=
  if x < low then low else if high < x then high else x

/-- The gain at the left end of the slider, in decibels. -/
def lowest : α := -40

/-- The gain of a slider percentage, in decibels. -/
def ofPercent (percent ceiling : α) : α :=
  let p := clamp 0 100 percent
  let top := atLeast 0 ceiling
  if p ≤ 50 then lowest + p / 50 * 40 else (p - 50) / 50 * top

/-- The slider percentage of a gain in decibels. -/
def toPercent (gain ceiling : α) : α :=
  let top := atLeast 0 ceiling
  if gain ≤ 0 then (atLeast lowest gain - lowest) / 40 * 50
  else if 0 < top then 50 + atMost top gain / top * 50
  else 50

end Curve

/-- The ceiling until the player reports one, in decibels. -/
def defaultCeiling : Float := 10

/-- A gain as it is shown, with a plus sign if it is positive. -/
def label (gain : Float) : String :=
  (if 0 < gain then "+" else "") ++ Decimal.tenths gain ++ " dB"

end Tuner.Gain
