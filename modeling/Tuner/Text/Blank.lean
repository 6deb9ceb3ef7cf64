/-!
# Blanks

Surrounding blanks never count in what the user types, and a line falls apart at its first blank.
A blank is any character of the Unicode property White_Space, so the set is wider than the ASCII
one of `Char.isWhitespace`. Text is cut as a list of characters; `trim` is the form for strings.
-/

namespace Tuner.Text

/-- A character with the Unicode property White_Space. -/
def isBlank (c : Char) : Bool :=
  let n := c.toNat
  (0x09 ≤ n && n ≤ 0x0D) || n == 0x20 || n == 0x85 || n == 0xA0 || n == 0x1680
    || (0x2000 ≤ n && n ≤ 0x200A) || n == 0x2028 || n == 0x2029 || n == 0x202F || n == 0x205F
    || n == 0x3000

def trimStart (cs : List Char) : List Char :=
  cs.dropWhile isBlank

def trimEnd (cs : List Char) : List Char :=
  (cs.reverse.dropWhile isBlank).reverse

def trimBoth (cs : List Char) : List Char :=
  trimEnd (trimStart cs)

def trim (s : String) : String :=
  String.ofList (trimBoth s.toList)

/-- The part before the first blank, and the part behind that blank. Without a blank all of the
text is the first part and the second is empty. -/
def splitBlank (cs : List Char) : List Char × List Char :=
  (cs.takeWhile (!isBlank ·), (cs.dropWhile (!isBlank ·)).drop 1)

end Tuner.Text
