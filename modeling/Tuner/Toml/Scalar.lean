import Tuner.Decimal.Numeral
import Tuner.Decimal.Style
import Tuner.Json.Number
import Tuner.Text.Hex
import Tuner.Toml.Basic
import Tuner.Word

/-!
# Bare values in TOML

Truth values, numbers, dates and times stand without quotes. A bare value is the longest run of the
characters that such values are made of, and what it is follows from its spelling alone. Underscores
may stand between two digits. An integer has 64 bits and a sign; a number too large for a double is
refused.
-/

namespace Tuner.Toml

open Decimal

namespace Scalar

/-! ## Digits -/

/-- A text cut at a character. -/
def splitAtChar (x : Char) : List Char → List (List Char)
  | [] => [[]]
  | c :: cs =>
    match splitAtChar x cs with
    | part :: parts => if c = x then [] :: part :: parts else (c :: part) :: parts
    | [] => [[c]]

/-- The digits of a text in which underscores stand between digits only. -/
def digits? (isDigit : Char → Bool) (cs : List Char) : Option (List Char) :=
  let parts := splitAtChar '_' cs
  if parts.all fun p => !p.isEmpty && p.all isDigit then some parts.flatten else none

/-- The digits of a decimal integer, which has no needless zero in front. -/
def wholeDigits? (cs : List Char) : Option (List Char) :=
  (digits? Char.isDigit cs).filter fun ds => ds.head? ≠ some '0' || ds.length = 1

/-- Whether a character is a digit in a base up to sixteen. -/
def isDigitIn (base : Nat) (c : Char) : Bool :=
  (Text.hexValue? c).any (· < base)

/-! ## Numbers -/

/-- An integer that fits 64 bits with a sign. -/
def fitting? (n : Int) : Option Value :=
  if -(Word.signedLimit : Int) ≤ n ∧ n < Word.signedLimit then some (.integer n) else none

/-- An integer in another base than ten. -/
def inBase? (base : Nat) (cs : List Char) : Option Value :=
  (digits? (isDigitIn base) cs).bind fun ds =>
    fitting? (ds.foldl (fun n c => base * n + (Text.hexValue? c).getD 0) 0 : Nat)

def integer? : List Char → Option Value
  | '0' :: 'x' :: cs => inBase? 16 cs
  | '0' :: 'o' :: cs => inBase? 8 cs
  | '0' :: 'b' :: cs => inBase? 2 cs
  | cs =>
    let (negative, ds) := takeSign cs
    (wholeDigits? ds).bind fun ds =>
      fitting? (if negative then -(ofDigits ds : Int) else ofDigits ds)

/-- The digits and the value of a power of ten with its mark. No text at all is the power zero. -/
def power? : List Char → Option Int
  | [] => some 0
  | c :: cs =>
    let (negative, ds) := takeSign cs
    if c = 'e' ∨ c = 'E' then
      (digits? Char.isDigit ds).map fun ds => if negative then -(ofDigits ds : Int) else ofDigits ds
    else none

def isPowerMark (c : Char) : Bool :=
  c == 'e' || c == 'E'

/-- A double with digits: places behind a point, a power of ten, or both. -/
def digitFloat? (cs : List Char) : Option Float :=
  let (negative, cs) := takeSign cs
  let mantissa := cs.takeWhile (!isPowerMark ·)
  let power := cs.dropWhile (!isPowerMark ·)
  let whole := mantissa.takeWhile (· != '.')
  let places := mantissa.dropWhile (· != '.')
  if places.isEmpty && power.isEmpty then none
  else do
    let whole ← wholeDigits? whole
    let places ← if places.isEmpty then some [] else digits? Char.isDigit (places.drop 1)
    let e ← power? power
    return signed negative (nearest (ofDigits (whole ++ places)) (e - places.length))

/-- A double. One that is too large is refused, although one that is too far below zero reads as
minus infinity. -/
def float? (cs : List Char) : Option Value :=
  let (negative, name) := takeSign cs
  if name = ['i', 'n', 'f'] then some (.float (signed negative infinity))
  else if name = ['n', 'a', 'n'] then some (.float notANumber)
  else ((digitFloat? cs).filter fun x => !(x == infinity)).map .float

/-! ## Dates and times -/

/-- The number of a given count of digits. -/
def number? (count : Nat) (cs : List Char) : Option Nat :=
  if cs.length = count && cs.all Char.isDigit then some (ofDigits cs) else none

/-- The number of days in a month. -/
def daysIn (year month : Nat) : Nat :=
  if month = 2 then
    if year % 4 = 0 ∧ year % 100 ≠ 0 ∨ year % 400 = 0 then 29 else 28
  else if month = 4 ∨ month = 6 ∨ month = 9 ∨ month = 11 then 30
  else 31

/-- Whether a text is a date. -/
def isDate (cs : List Char) : Bool :=
  match splitAtChar '-' cs with
  | [y, m, d] =>
    match number? 4 y, number? 2 m, number? 2 d with
    | some y, some m, some d => 1 ≤ m && m ≤ 12 && 1 ≤ d && d ≤ daysIn y m
    | _, _, _ => false
  | _ => false

/-- Whether a text is hours and minutes. -/
def isHourMinute (hour minute : List Char) : Bool :=
  match number? 2 hour, number? 2 minute with
  | some h, some m => h ≤ 23 && m ≤ 59
  | _, _ => false

/-- Whether a text is seconds, possibly with a fraction. A minute may have a leap second. -/
def isSecond (cs : List Char) : Bool :=
  let fraction := cs.dropWhile (· != '.')
  (number? 2 (cs.takeWhile (· != '.'))).any (· ≤ 60)
    && (fraction.isEmpty || (1 < fraction.length && (fraction.drop 1).all Char.isDigit))

/-- Whether a text is a time of day. -/
def isTime (cs : List Char) : Bool :=
  match splitAtChar ':' cs with
  | [h, m, s] => isHourMinute h m && isSecond s
  | _ => false

/-- Whether a text is an offset from universal time. -/
def isOffset (cs : List Char) : Bool :=
  match cs with
  | ['Z'] | ['z'] => true
  | c :: cs =>
    (c == '+' || c == '-') &&
      match splitAtChar ':' cs with
      | [h, m] => isHourMinute h m
      | _ => false
  | [] => false

def beginsOffset (c : Char) : Bool :=
  c == 'Z' || c == 'z' || c == '+' || c == '-'

/-- Whether a text is a time of day, possibly with an offset. -/
def isTimeWithOffset (cs : List Char) : Bool :=
  let offset := cs.dropWhile (!beginsOffset ·)
  isTime (cs.takeWhile (!beginsOffset ·)) && (offset.isEmpty || isOffset offset)

/-- Whether a text is a date, a time of day, or both with `T` between them. -/
def isDateTime (cs : List Char) : Bool :=
  let date := cs.take 10
  match cs.drop 10 with
  | [] => isDate date || isTime cs
  | c :: time => (isDate date && (c == 'T' || c == 't') && isTimeWithOffset time) || isTime cs

/-! ## Bare values -/

/-- Whether a character may stand in a bare value. -/
def isBare (c : Char) : Bool :=
  c.isAlphanum || c == '+' || c == '-' || c == '_' || c == '.' || c == ':'

/-- The value of a run of such characters. -/
def ofBare? (cs : List Char) : Option Value :=
  if cs = ['t', 'r', 'u', 'e'] then some (.bool true)
  else if cs = ['f', 'a', 'l', 's', 'e'] then some (.bool false)
  else if isDateTime cs then some .dateTime
  else (integer? cs).or (float? cs)

/-- A bare value and what follows it. A date may be followed by a blank and a time of day. -/
def read? (cs : List Char) : Option (Value × List Char) :=
  let word := cs.takeWhile isBare
  let rest := cs.dropWhile isBare
  let time := (rest.drop 1).takeWhile isBare
  if isDate word && rest.head? == some ' ' && isTimeWithOffset time then
    some (.dateTime, (rest.drop 1).dropWhile isBare)
  else (ofBare? word).map (·, rest)

/-! ## Writing -/

/-- Doubles are written in place, with a point. -/
def floatStyle : Style :=
  { inPlace := fun _ => true
    wholePoint := true
    tie := .up
    nan := "nan"
    infinity := "inf" }

def writeInteger (n : Int) : List Char :=
  Number.integerChars n

/-- A double. -/
def writeFloat (x : Float) : List Char :=
  floatStyle.chars (Binary.ofFloat x)

end Scalar

end Tuner.Toml
