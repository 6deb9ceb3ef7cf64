import Tuner.Json.Number
import Tuner.Text.Hex

/-!
# JSON tokens

The text of a JSON value is a sequence of tokens: brackets, separators, strings and bare words.
`Token.chars` writes one token, and `Token.scan?` cuts a text into tokens, one character at a time.
A bare word is the longest run of characters that numbers and the three names are made of; what
the run means is decided when it ends.
-/

namespace Tuner.Json

/-- A token of the text of a JSON value. -/
inductive Token where
  | beginArray
  | endArray
  | beginObject
  | endObject
  | colon
  | comma
  | null
  | bool (b : Bool)
  | number (n : Number)
  | string (s : String)
  deriving Repr

namespace Token

/-! ## Writing -/

/-- How one character is written inside a string. Only the quote, the backslash and the control
characters below the space are escaped. -/
def escaped (c : Char) : List Char :=
  match c with
  | '"' => ['\\', '"']
  | '\\' => ['\\', '\\']
  | '\x08' => ['\\', 'b']
  | '\t' => ['\\', 't']
  | '\n' => ['\\', 'n']
  | '\x0c' => ['\\', 'f']
  | '\r' => ['\\', 'r']
  | c =>
    if c.toNat < 0x20 then
      ['\\', 'u', '0', '0', Text.hexDigit (c.toNat / 16), Text.hexDigit (c.toNat % 16)]
    else [c]

/-- A token as it is written. -/
def chars : Token → List Char
  | beginArray => ['[']
  | endArray => [']']
  | beginObject => ['\x7b']
  | endObject => ['\x7d']
  | colon => [':']
  | comma => [',']
  | null => ['n', 'u', 'l', 'l']
  | bool true => ['t', 'r', 'u', 'e']
  | bool false => ['f', 'a', 'l', 's', 'e']
  | number n => n.chars
  | string s => ['"'] ++ s.toList.flatMap escaped ++ ['"']

/-! ## Scanning -/

/-- Whether a character may stand in a bare word. -/
def isBare (c : Char) : Bool :=
  c.isAlphanum || c == '+' || c == '-' || c == '.'

def ofBare? (cs : List Char) : Option Token :=
  if cs = ['n', 'u', 'l', 'l'] then some null
  else if cs = ['t', 'r', 'u', 'e'] then some (bool true)
  else if cs = ['f', 'a', 'l', 's', 'e'] then some (bool false)
  else (Number.ofChars? cs).map number

def ofMark? : Char → Option Token
  | '[' => some beginArray
  | ']' => some endArray
  | '\x7b' => some beginObject
  | '\x7d' => some endObject
  | ':' => some colon
  | ',' => some comma
  | _ => none

/-- Where in a token the scan stands. The characters seen so far are kept newest first. Inside a
string, `high` is the first half of a surrogate pair whose second half must follow at once. -/
inductive Place where
  | between
  | bare (seen : List Char)
  | quoted (seen : List Char) (high : Option Nat)
  | backslash (seen : List Char) (high : Option Nat)
  | unit (seen : List Char) (high : Option Nat) (value digits : Nat)
  deriving Repr

/-- A scan under way: the tokens already found, newest first, and the place. -/
structure Scan where
  tokens : List Token
  place : Place
  deriving Repr

/-- The character that a short escape stands for. -/
def ofEscape? : Char → Option Char
  | '"' => some '"'
  | '\\' => some '\\'
  | '/' => some '/'
  | 'b' => some '\x08'
  | 'f' => some '\x0c'
  | 'n' => some '\n'
  | 'r' => some '\r'
  | 't' => some '\t'
  | _ => none

/-- The place after a complete UTF-16 unit: a first half waits for the second, which makes one
character of both, and neither half stands alone. -/
def afterUnit? (seen : List Char) (high : Option Nat) (value : Nat) : Option Place :=
  let isHigh := 0xD800 ≤ value && value ≤ 0xDBFF
  let isLow := 0xDC00 ≤ value && value ≤ 0xDFFF
  match high with
  | some h =>
    if isLow then
      some (.quoted (Char.ofNat (0x10000 + (h - 0xD800) * 0x400 + (value - 0xDC00)) :: seen) none)
    else none
  | none =>
    if isHigh then some (.quoted seen (some value))
    else if isLow then none
    else some (.quoted (Char.ofNat value :: seen) none)

/-- The scan after a character that stands between tokens or begins one. -/
def Scan.begin? (tokens : List Token) (c : Char) : Option Scan :=
  if c = ' ' ∨ c = '\t' ∨ c = '\n' ∨ c = '\r' then some ⟨tokens, .between⟩
  else if c = '"' then some ⟨tokens, .quoted [] none⟩
  else if isBare c then some ⟨tokens, .bare [c]⟩
  else (ofMark? c).map fun t => ⟨t :: tokens, .between⟩

def Scan.step? (s : Scan) (c : Char) : Option Scan :=
  match s.place with
  | .between => Scan.begin? s.tokens c
  | .bare seen =>
    if isBare c then some ⟨s.tokens, .bare (c :: seen)⟩
    else (ofBare? seen.reverse).bind fun t => Scan.begin? (t :: s.tokens) c
  | .quoted seen high =>
    if c = '\\' then some ⟨s.tokens, .backslash seen high⟩
    else if high.isSome then none
    else if c = '"' then some ⟨string (String.ofList seen.reverse) :: s.tokens, .between⟩
    else if c.toNat < 0x20 then none
    else some ⟨s.tokens, .quoted (c :: seen) none⟩
  | .backslash seen high =>
    if c = 'u' then some ⟨s.tokens, .unit seen high 0 0⟩
    else if high.isSome then none
    else (ofEscape? c).map fun e => ⟨s.tokens, .quoted (e :: seen) none⟩
  | .unit seen high value digits =>
    (Text.hexValue? c).bind fun d =>
      if digits < 3 then some ⟨s.tokens, .unit seen high (16 * value + d) (digits + 1)⟩
      else (afterUnit? seen high (16 * value + d)).map fun p => ⟨s.tokens, p⟩

/-- The tokens of a scan that has seen all of its text. -/
def Scan.finish? (s : Scan) : Option (List Token) :=
  match s.place with
  | .between => some s.tokens.reverse
  | .bare seen => (ofBare? seen.reverse).map fun t => (t :: s.tokens).reverse
  | _ => none

/-- The tokens of a text. -/
def scan? (cs : List Char) : Option (List Token) :=
  (cs.foldlM Scan.step? ⟨[], .between⟩).bind Scan.finish?

end Token

end Tuner.Json
