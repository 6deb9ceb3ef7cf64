/-!
# Reading decimal numerals

A numeral is split into its sign, the digits before and behind the point and the power of ten, by
`Numeral.parse?`; `nearest` gives the double next to a decimal number. The two together read what a
user types as a number: an optional sign, then the name of a value without digits in any case of
letters, or digits with at most one point and an optional power of ten.
-/

namespace Tuner.Decimal

/-- The number that one digit stands for. -/
def digitValue (c : Char) : Nat :=
  c.toNat - '0'.toNat

/-- The number that a list of digits stands for. -/
def ofDigits (ds : List Char) : Nat :=
  Nat.ofDigitChars 10 ds 0

/-- The digits that a text starts with, and the rest of it. -/
def spanDigits (cs : List Char) : List Char × List Char :=
  (cs.takeWhile Char.isDigit, cs.dropWhile Char.isDigit)

/-- The infinite double. -/
def infinity : Float := 1.0 / 0.0

/-- The double that is no number. -/
def notANumber : Float := 0.0 / 0.0

/-- The double nearest to `digits · 10 ^ exponent`. Far outside the range of doubles the power is
never computed. -/
def nearest (digits : Nat) (exponent : Int) : Float :=
  let size := exponent + (Nat.toDigits 10 digits).length
  if digits = 0 then 0.0
  else if 310 < size then infinity
  else if size < -330 then 0.0
  else Float.ofScientific digits (exponent < 0) exponent.natAbs

/-- The negated double if `negative`, else the double itself. -/
def signed (negative : Bool) (x : Float) : Float :=
  if negative then -x else x

/-- An optional sign, and what follows it. -/
def takeSign : List Char → Bool × List Char
  | '-' :: cs => (true, cs)
  | '+' :: cs => (false, cs)
  | cs => (false, cs)

/-- A power of ten: a mark, an optional sign and digits up to the end of the text. No text at all
is the power zero. -/
def exponent? : List Char → Option Int
  | [] => some 0
  | c :: cs =>
    let (negative, ds) := takeSign cs
    if (c = 'e' || c = 'E') && !ds.isEmpty && ds.all Char.isDigit then
      some (if negative then -(ofDigits ds : Int) else ofDigits ds)
    else none

/-- A numeral without its sign: digits, at most one point among or beside them, and an optional
power of ten. -/
def magnitude? (cs : List Char) : Option Float :=
  let (whole, rest) := spanDigits cs
  let (places, rest) := match rest with
    | '.' :: rest => spanDigits rest
    | rest => ([], rest)
  if whole.isEmpty && places.isEmpty then none
  else (exponent? rest).map fun e => nearest (ofDigits (whole ++ places)) (e - places.length)

/-- The number that a text names, if it names one. -/
def parse? (s : String) : Option Float :=
  let (negative, cs) := takeSign s.toList
  match String.ofList (cs.map Char.toLower) with
  | "inf" | "infinity" => some (signed negative infinity)
  | "nan" => some notANumber
  | _ => (magnitude? cs).map (signed negative)

end Tuner.Decimal
