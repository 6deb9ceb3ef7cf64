import Tuner.Decimal.Style
import Tuner.Word

/-!
# The clock

How a number of seconds is shown.
-/

namespace Tuner.Console

/-- The highest number of seconds that is shown. -/
def lastSecond : Nat := Word.limit - 1

/-- The whole seconds of a duration. What is negative or no number has none, and there is a highest
number. -/
def wholeSeconds (secs : Float) : Nat :=
  match Decimal.Binary.ofFloat secs with
  | .nan => 0
  | .infinite negative => if negative then 0 else lastSecond
  | .finite negative m q => if negative then 0 else min lastSecond (Decimal.wholePart m q)

/-- A number with at least two digits. -/
def twoDigits (n : Nat) : String :=
  (if n < 10 then "0" else "") ++ toString n

/-- A duration in minutes and seconds. -/
def clock (secs : Float) : String :=
  let n := wholeSeconds secs
  toString (n / 60) ++ ":" ++ twoDigits (n % 60)

end Tuner.Console
