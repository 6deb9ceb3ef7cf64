import Tuner.Text.Printable

/-!
# Quoted text in messages

A message that names a piece of text shows it between double quotes, so that blanks at its ends and
characters that leave no mark can be seen. A character that cannot stand for itself is written as an
escape: the quote, the backslash and four control characters have short ones, and whatever is not
printable, or would merge with its neighbour, is shown by its number.
-/

namespace Tuner.Text

/-- A character by its number, in hexadecimal between braces. -/
def numbered (c : Char) : List Char :=
  ['\\', 'u', '\x7b'] ++ Nat.toDigits 16 c.toNat ++ ['\x7d']

/-- How one character is shown inside a quoted text. -/
def shown (c : Char) : List Char :=
  match c with
  | '"' => ['\\', '"']
  | '\\' => ['\\', '\\']
  | '\t' => ['\\', 't']
  | '\n' => ['\\', 'n']
  | '\r' => ['\\', 'r']
  | '\x00' => ['\\', '0']
  | c => if isPrintable c && !isExtending c then [c] else numbered c

/-- A text as a message shows it. -/
def quoted (s : String) : String :=
  String.ofList (['"'] ++ s.toList.flatMap shown ++ ['"'])

end Tuner.Text
