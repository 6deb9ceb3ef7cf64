/-!
# Doubles as whole numbers and powers of two

Every finite double is `m · 2 ^ q` for a natural number `m` and an integer `q`, up to its sign.
Printing and rounding are exact once a double is taken apart in this way: they are arithmetic on
natural numbers, without a rounding of their own. `Binary.ofFloat` takes a double apart, and
`ratio` gives its magnitude as a quotient of two natural numbers, from which the roundings to a
whole number follow.
-/

namespace Tuner.Decimal

/-- A double, taken apart. -/
inductive Binary where
  /-- No number. -/
  | nan
  | infinite (negative : Bool)
  /-- The number of magnitude `m · 2 ^ q`. Zero keeps its sign. -/
  | finite (negative : Bool) (m : Nat) (q : Int)
  deriving Repr, DecidableEq

/-- The weight of the bit that stands before the fraction of most doubles and is not stored, 2⁵². -/
def hiddenBit : Nat := 0x10000000000000

namespace Binary

/-- The number that a 64-bit pattern stands for: a sign bit, eleven bits of exponent and 52 of
fraction. The lowest exponent has no hidden bit and the highest one no finite number. -/
def ofBits (bits : Nat) : Binary :=
  let negative := bits.testBit 63
  let exponent : Nat := bits / hiddenBit % 2048
  let fraction : Nat := bits % hiddenBit
  if exponent = 2047 then
    if fraction = 0 then .infinite negative else .nan
  else if exponent = 0 then
    .finite negative fraction (-1074)
  else
    .finite negative (hiddenBit + fraction) ((exponent : Int) - 1075)

/-- A double, taken apart. -/
def ofFloat (x : Float) : Binary :=
  ofBits x.toBits.toNat

end Binary

/-- The numerator and denominator of `m · 2 ^ q`. -/
def ratio (m : Nat) (q : Int) : Nat × Nat :=
  (m <<< q.toNat, 1 <<< (-q).toNat)

def wholePart (m : Nat) (q : Int) : Nat :=
  let (num, den) := ratio m q
  num / den

/-- The whole number nearest to a magnitude, a half going up. -/
def nearestWhole (m : Nat) (q : Int) : Nat :=
  let (num, den) := ratio m q
  (2 * num + den) / (2 * den)

/-- The quotient of two natural numbers as a whole number, a half going to the even neighbour. -/
def divToEven (num den : Nat) : Nat :=
  let down := num / den
  let twice := 2 * (num % den)
  if twice < den then down
  else if den < twice then down + 1
  else if down % 2 = 0 then down else down + 1

end Tuner.Decimal
