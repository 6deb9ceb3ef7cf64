import Tuner.Decimal.Shortest

/-!
# Writing doubles

A double is written with the fewest digits that read back. What differs from one written form to
another is gathered in a `Style`: between which exponents the digits stand in place instead of with
a power of ten, whether a whole number keeps a decimal point, and the words for the values that
have no digits. `tenths` is the form with exactly one decimal place.
-/

namespace Tuner.Decimal

/-- The choices of one written form of doubles. -/
structure Style where
  /-- Whether a number is written without a power of ten, by the exponent of its first digit. -/
  inPlace : Int → Bool
  /-- Whether a whole number written without a power of ten ends in a point and a zero. -/
  wholePoint : Bool
  tie : Tie
  /-- What is written for a value that is no number. -/
  nan : String
  /-- What is written for the infinite value, behind its sign. -/
  infinity : String

def digitChars (n : Nat) : List Char :=
  Nat.toDigits 10 n

/-- The decimal written out in place. -/
def Scaled.inPlace (wholePoint : Bool) (d : Scaled) : List Char :=
  let ds := digitChars d.digits
  let whole := (ds.length : Int) + d.exponent
  if 0 ≤ d.exponent then
    ds ++ List.replicate d.exponent.toNat '0' ++ (if wholePoint then ['.', '0'] else [])
  else if 0 < whole then
    ds.take whole.toNat ++ ['.'] ++ ds.drop whole.toNat
  else
    ['0', '.'] ++ List.replicate (-whole).toNat '0' ++ ds

/-- The exponent of the decimal's first digit. -/
def Scaled.lead (d : Scaled) : Int :=
  d.exponent + (digitChars d.digits).length - 1

/-- The decimal as its first digit, the others behind a point, and a signed power of ten. -/
def Scaled.scientific (d : Scaled) : List Char :=
  let ds := digitChars d.digits
  let e := d.lead
  let mantissa := if ds.length = 1 then ds else ds.take 1 ++ ['.'] ++ ds.drop 1
  mantissa ++ ['e', if 0 ≤ e then '+' else '-'] ++ digitChars e.natAbs

/-- The sign that is written before a magnitude. -/
def sign (negative : Bool) : List Char :=
  if negative then ['-'] else []

/-- A double that was taken apart, written in a style. -/
def Style.chars (style : Style) : Binary → List Char
  | .nan => style.nan.toList
  | .infinite negative => sign negative ++ style.infinity.toList
  | .finite negative m q =>
    if m = 0 then
      sign negative ++ ['0'] ++ (if style.wholePoint then ['.', '0'] else [])
    else
      let d := shortest style.tie m q
      sign negative ++
        (if style.inPlace d.lead then d.inPlace style.wholePoint else d.scientific)

/-- A double, written in a style. -/
def Style.render (style : Style) (x : Float) : String :=
  String.ofList (style.chars (Binary.ofFloat x))

/-- A double with one decimal place, its exact value rounded and a half going to the even tenth. -/
def tenths (x : Float) : String :=
  match Binary.ofFloat x with
  | .nan => "NaN"
  | .infinite negative => String.ofList (sign negative ++ ['i', 'n', 'f'])
  | .finite negative m q =>
    let (num, den) := ratio m q
    let n := divToEven (10 * num) den
    String.ofList (sign negative ++ digitChars (n / 10) ++ ['.'] ++ digitChars (n % 10))

end Tuner.Decimal
