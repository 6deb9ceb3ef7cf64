import Tuner.Decimal.Numeral
import Tuner.Decimal.Style
import Tuner.Json.Basic
import Tuner.Word

/-!
# JSON numbers as text

An integer that fits 64 bits is written and read as an integer. Every other number is a double: it
is written with the fewest digits that read back, in place for the first digit's exponents from −5
to 15, and read by gathering its digits into a significand below 2⁶⁴ and scaling that by one power
of ten. The scaling rounds once more, so that a numeral of more than fifteen digits may come out one
step off the nearest double.
-/

namespace Tuner.Number

open Decimal

/-! ## Writing -/

/-- Doubles in JSON keep a decimal point, and switch to powers of ten outside of 10⁻⁵ to 10¹⁵. -/
def style : Style :=
  { inPlace := fun e => -5 ≤ e && e ≤ 15
    wholePoint := true
    tie := .toEven
    nan := "NaN"
    infinity := "inf" }

/-- An integer in decimal digits. -/
def integerChars (n : Int) : List Char :=
  sign (n < 0) ++ digitChars n.natAbs

/-- A number as it is written. -/
def chars : Number → List Char
  | .integer n => integerChars n
  | .double x => style.chars (Binary.ofFloat x)

/-! ## Reading -/

/-- The digits joined to a significand as long as it stays below 2⁶⁴, and the digits left over. -/
def gather : Nat → List Char → Nat × List Char
  | s, [] => (s, [])
  | s, d :: ds =>
    if 10 * s + digitValue d < Word.limit then gather (10 * s + digitValue d) ds else (s, d :: ds)

/-- A power of ten as a double, for exponents up to 308. -/
def powerAsDouble (e : Nat) : Float :=
  Float.ofScientific 1 false e

/-- A significand scaled by a power of ten, unless the result is too large for a double. A division
by more than 10³⁰⁸ is done in two steps, and one by more than 10⁶¹⁶ leaves nothing. -/
def scale? (significand : Nat) (e : Int) : Option Float :=
  let x := Float.ofNat significand
  let k := e.natAbs
  if significand = 0 then some 0.0
  else if 0 ≤ e then
    if 308 < k then none
    else if (x * powerAsDouble k).isInf then none
    else some (x * powerAsDouble k)
  else if k ≤ 308 then some (x / powerAsDouble k)
  else if k ≤ 616 then some (x / powerAsDouble 308 / powerAsDouble (k - 308))
  else some 0.0

/-- The number of a numeral that is only a sign and digits. Zero with a minus sign is a double,
since no integer keeps the sign. -/
def ofWhole? (negative : Bool) (whole : List Char) : Option Number :=
  let (s, left) := gather 0 whole
  if left.isEmpty && !negative then some (.integer s)
  else if left.isEmpty && s ≠ 0 && s ≤ Word.signedLimit then some (.integer (-(s : Int)))
  else (scale? s left.length).map fun x => .double (signed negative x)

/-- The number of a numeral with places behind the point or a power of ten. -/
def ofPlaces? (negative : Bool) (whole places : List Char) (e : Int) : Option Number :=
  let (s, beyond) := gather 0 whole
  let (s, left) := gather s places
  (scale? s (beyond.length - (places.length - left.length : Nat) + e)).map
    fun x => .double (signed negative x)

/-- The number of a numeral behind its sign: digits without a needless zero in front, and then
nothing, a point with digits behind it, a power of ten, or both. -/
def ofUnsigned? (negative : Bool) (cs : List Char) : Option Number :=
  let (whole, rest) := spanDigits cs
  if whole.isEmpty || (whole.head? == some '0' && whole ≠ ['0']) then none
  else match rest with
    | [] => ofWhole? negative whole
    | '.' :: rest =>
      let (places, rest) := spanDigits rest
      if places.isEmpty then none else (exponent? rest).bind (ofPlaces? negative whole places)
    | rest => (exponent? rest).bind (ofPlaces? negative whole [])

/-- The number that a text is, in the grammar of JSON: no sign but a minus, no needless zero in
front, digits on both sides of a point, and an optional power of ten. -/
def ofChars? : List Char → Option Number
  | '-' :: cs => ofUnsigned? true cs
  | cs => ofUnsigned? false cs

end Tuner.Number
