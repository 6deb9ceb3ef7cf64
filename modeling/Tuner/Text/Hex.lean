/-!
# Hexadecimal digits

Escapes give a character by its number in hexadecimal. Digits are read in either case of letters
and written in lower case.
-/

namespace Tuner.Text

def hexValue? (c : Char) : Option Nat :=
  let n := c.toNat
  if '0' ≤ c ∧ c ≤ '9' then some (n - '0'.toNat)
  else if 'a' ≤ c ∧ c ≤ 'f' then some (n - 'a'.toNat + 10)
  else if 'A' ≤ c ∧ c ≤ 'F' then some (n - 'A'.toNat + 10)
  else none

/-- The digit of a number below sixteen. -/
def hexDigit (n : Nat) : Char :=
  Nat.digitChar n

/-- A written digit is read back. -/
theorem hexValue?_hexDigit : ∀ n < 16, hexValue? (hexDigit n) = some n := by
  decide

/-- A digit is read back from its upper case, too. -/
theorem hexValue?_toUpper_hexDigit : ∀ n < 16, hexValue? (hexDigit n).toUpper = some n := by
  decide

end Tuner.Text
