import Tuner.Decimal.Binary

/-!
# The fewest digits that read back

A double stands for every real number that rounds to it, and among those some have a short decimal
form. `shortest` finds the form with the fewest digits, and of several the one nearest to the
double. It looks at the decimal grids `10 ^ e` from coarse to fine: the double's two neighbours on
a grid are the only candidates that matter there, since a grid point that rounds to the double
leaves a neighbour that does. Everything is decided in natural numbers.
-/

namespace Tuner.Decimal

/-- The decimal number of some digits, scaled by a power of ten: `digits · 10 ^ exponent`. -/
structure Scaled where
  digits : Nat
  exponent : Int
  deriving Repr, DecidableEq

/-- Which of two equally near neighbours is taken. -/
inductive Tie where
  | toEven
  | up
  deriving Repr, DecidableEq

/-- The reals that round to the double `m · 2 ^ q`, in quarters of `2 ^ q`: from `low` to `high`
around `middle`, the ends themselves only if `closed`. Below a power of two the doubles lie twice
as close. -/
structure Interval where
  low : Nat
  middle : Nat
  high : Nat
  closed : Bool
  deriving Repr

/-- The interval of the double `m · 2 ^ q`. -/
def Interval.around (m : Nat) (q : Int) : Interval :=
  { low := if m = hiddenBit ∧ q ≠ -1074 then 4 * m - 1 else 4 * m - 2
    middle := 4 * m
    high := 4 * m + 2
    closed := m % 2 == 0 }

def powerOfTen (k : Nat) : Nat :=
  Nat.pow 10 k

/-- The better of the interval's two neighbours on the grid of step `10 ^ e`, if one of them rounds
to the double. -/
def onGrid (tie : Tie) (i : Interval) (q e : Int) : Option Nat :=
  -- one quarter of `2 ^ q` is `unit / step` grid steps
  let unit := (1 <<< (q - 2).toNat) * powerOfTen (-e).toNat
  let step := (1 <<< (2 - q).toNat) * powerOfTen e.toNat
  let rounds (d : Nat) : Bool :=
    if i.closed then i.low * unit ≤ d * step && d * step ≤ i.high * unit
    else i.low * unit < d * step && d * step < i.high * unit
  let down := i.middle * unit / step
  let twice := 2 * (i.middle * unit % step)
  match rounds down, rounds (down + 1) with
  | false, false => none
  | true, false => some down
  | false, true => some (down + 1)
  | true, true =>
    if twice < step then some down
    else if step < twice then some (down + 1)
    else match tie with
      | .toEven => some (if down % 2 = 0 then down else down + 1)
      | .up => some (down + 1)

/-- An exponent whose grid is at least as coarse as the first one with a candidate: `m · 2 ^ q` is
below `2 ^ (log2 m + 1 + q)`. -/
def coarsest (m : Nat) (q : Int) : Int :=
  ((Nat.log2 m : Int) + 1 + q) * 30103 / 100000 + 1

/-- The shortest decimal that rounds to `m · 2 ^ q`, for a positive `m`. Seventeen digits always
suffice, so that a few grids below the coarsest one are enough. -/
def shortest (tie : Tie) (m : Nat) (q : Int) : Scaled :=
  let i := Interval.around m q
  let top := coarsest m q
  let found := (List.range 24).findSome? fun (k : Nat) =>
    (onGrid tie i q (top - (k : Int))).map fun d => (⟨d, top - (k : Int)⟩ : Scaled)
  found.getD ⟨m, 0⟩

end Tuner.Decimal
