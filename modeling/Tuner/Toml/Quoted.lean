import Tuner.Text.Hex

/-!
# Strings in TOML

A string stands between quotes, on one line or on several. Between double quotes a backslash begins
an escape; between single quotes every character stands for itself. On several lines the quotes are
tripled, a line break right behind the opening is dropped, and up to two quotes may stand inside or
before the closing ones.

`QuotedText.read` reads a string character by character. `write` chooses the plainest of the forms
that can hold a text and writes it.
-/

namespace Tuner.Toml

/-- A form of strings. -/
structure QuotedText where
  quote : Char
  /-- Whether a backslash begins an escape. -/
  escapes : Bool
  /-- Whether the quotes are tripled. -/
  multiline : Bool
  deriving Repr, DecidableEq

namespace QuotedText

/-- The single quote. -/
def apostrophe : Char := '\x27'

def basic : QuotedText := ⟨'"', true, false⟩
def literal : QuotedText := ⟨apostrophe, false, false⟩
def multilineBasic : QuotedText := ⟨'"', true, true⟩
def multilineLiteral : QuotedText := ⟨apostrophe, false, true⟩

/-! ## Reading -/

/-- Whether a character may stand for itself in a string or a comment: a tab, or any character but
the control characters. -/
def isPlain (c : Char) : Bool :=
  c == '\t' || (0x20 ≤ c.toNat && c.toNat ≠ 0x7F)

/-- The character of a number, unless the number is half of a surrogate pair or too large. -/
def scalar? (n : Nat) : Option Char :=
  if n.isValidChar then some (Char.ofNat n) else none

def ofEscape? : Char → Option Char
  | 'b' => some '\x08'
  | 't' => some '\t'
  | 'n' => some '\n'
  | 'f' => some '\x0c'
  | 'r' => some '\r'
  | '"' => some '"'
  | '\\' => some '\\'
  | _ => none

/-- Where in a string the reading stands. -/
inductive Place where
  | inside
  | backslash
  /-- Behind `\u` or `\U`, with the digits still to come. -/
  | unit (left value : Nat)
  /-- Behind some quotes in a row. -/
  | quotes (n : Nat)
  /-- Behind a carriage return, which begins a line break. -/
  | carriage
  /-- Between a backslash and the line break that it hides. -/
  | lineEnd
  /-- Among the blanks and line breaks that a backslash hides. -/
  | hidden
  /-- Behind a carriage return among what is hidden. -/
  | hiddenCarriage
  deriving Repr, DecidableEq

/-- The text so far, newest first, with some quotes at its end. -/
def withQuotes (q : QuotedText) (n : Nat) (seen : List Char) : List Char :=
  List.replicate n q.quote ++ seen

/-- The place behind a character that is neither the quote nor part of an escape, and the text so
far. -/
def inside? (q : QuotedText) (seen : List Char) (c : Char) : Option (Place × List Char) :=
  if q.escapes && c == '\\' then some (.backslash, seen)
  else if q.multiline && c == '\n' then some (.inside, '\n' :: seen)
  else if q.multiline && c == '\r' then some (.carriage, seen)
  else if isPlain c then some (.inside, c :: seen)
  else none

/-- The place behind a backslash and one more character. -/
def backslash? (q : QuotedText) (seen : List Char) (c : Char) : Option (Place × List Char) :=
  if c = 'u' then some (.unit 4 0, seen)
  else if c = 'U' then some (.unit 8 0, seen)
  else if q.multiline && c == '\n' then some (.hidden, seen)
  else if q.multiline && c == '\r' then some (.hiddenCarriage, seen)
  else if q.multiline && (c == ' ' || c == '\t') then some (.lineEnd, seen)
  else (ofEscape? c).map fun e => (.inside, e :: seen)

/-- The place behind one more digit of a numbered character. -/
def unit? (left value : Nat) (seen : List Char) (c : Char) : Option (Place × List Char) :=
  (Text.hexValue? c).bind fun d =>
    if 1 < left then some (.unit (left - 1) (16 * value + d), seen)
    else (scalar? (16 * value + d)).map fun e => (.inside, e :: seen)

/-- The text of a string and what follows the string, read from a place behind the opening quotes.
`seen` is the text so far, newest first. -/
def readFrom (q : QuotedText) : Place → List Char → List Char → Option (List Char × List Char)
  | .quotes n, seen, [] => if 3 ≤ n then some ((q.withQuotes (n - 3) seen).reverse, []) else none
  | _, _, [] => none
  | .inside, seen, c :: cs =>
    if c = q.quote then
      if q.multiline then q.readFrom (.quotes 1) seen cs else some (seen.reverse, cs)
    else match q.inside? seen c with
      | some (place, seen) => q.readFrom place seen cs
      | none => none
  | .backslash, seen, c :: cs =>
    match q.backslash? seen c with
    | some (place, seen) => q.readFrom place seen cs
    | none => none
  | .unit left value, seen, c :: cs =>
    match unit? left value seen c with
    | some (place, seen) => q.readFrom place seen cs
    | none => none
  | .quotes n, seen, c :: cs =>
    if c = q.quote then
      if n < 4 then q.readFrom (.quotes (n + 1)) seen cs
      else some ((q.withQuotes 2 seen).reverse, cs)
    else if 3 ≤ n then some ((q.withQuotes (n - 3) seen).reverse, c :: cs)
    else match q.inside? (q.withQuotes n seen) c with
      | some (place, seen) => q.readFrom place seen cs
      | none => none
  | .carriage, seen, c :: cs => if c = '\n' then q.readFrom .inside ('\n' :: seen) cs else none
  | .lineEnd, seen, c :: cs =>
    if c = ' ' ∨ c = '\t' then q.readFrom .lineEnd seen cs
    else if c = '\n' then q.readFrom .hidden seen cs
    else if c = '\r' then q.readFrom .hiddenCarriage seen cs
    else none
  | .hidden, seen, c :: cs =>
    if c = ' ' ∨ c = '\t' ∨ c = '\n' then q.readFrom .hidden seen cs
    else if c = '\r' then q.readFrom .hiddenCarriage seen cs
    else if c = q.quote then q.readFrom (.quotes 1) seen cs
    else match q.inside? seen c with
      | some (place, seen) => q.readFrom place seen cs
      | none => none
  | .hiddenCarriage, seen, c :: cs => if c = '\n' then q.readFrom .hidden seen cs else none

/-- A text without the line break that it begins with. -/
def dropBreak : List Char → List Char
  | '\n' :: cs => cs
  | '\r' :: '\n' :: cs => cs
  | cs => cs

/-- The text of a string and what follows it, read behind the opening quotes. -/
def read (q : QuotedText) (cs : List Char) : Option (String × List Char) :=
  (q.readFrom .inside [] (if q.multiline then dropBreak cs else cs)).map fun r =>
    (String.ofList r.1, r.2)

/-- The form of a string and what follows its opening quotes. -/
def open? : List Char → Option (QuotedText × List Char)
  | '"' :: '"' :: '"' :: cs => some (multilineBasic, cs)
  | '"' :: cs => some (basic, cs)
  | '\x27' :: '\x27' :: '\x27' :: cs => some (multilineLiteral, cs)
  | '\x27' :: cs => some (literal, cs)
  | _ => none

/-! ## Writing -/

/-- Whether a character can only be written by an escape, on one line or on several. -/
def needsEscape (c : Char) : Bool :=
  c != '\t' && c != '\n' && !isPlain c

/-- The length of the longest run of a character, where `run` of them stand before the text. -/
def longestRun (x : Char) (run : Nat) : List Char → Nat
  | [] => run
  | c :: cs => if c = x then longestRun x (run + 1) cs else max run (longestRun x 0 cs)

/-- The form in which a text is written: the first in a fixed order that holds it without escapes,
or else double quotes with escapes. -/
def choose (cs : List Char) : QuotedText :=
  let control := cs.any needsEscape
  let backslash := cs.contains '\\'
  let newline := cs.contains '\n'
  let doubles := longestRun '"' 0 cs
  let singles := longestRun apostrophe 0 cs
  if !control && !backslash && doubles == 0 && !newline then basic
  else if !control && singles == 0 && !newline then literal
  else if !control && !backslash && doubles ≤ 2 then multilineBasic
  else if !control && singles ≤ 2 then multilineLiteral
  else if newline then multilineBasic
  else basic

def upperHexDigit (n : Nat) : Char :=
  (Text.hexDigit n).toUpper

/-- A character other than the quote between double quotes. -/
def escaped (multiline : Bool) (c : Char) : List Char :=
  match c with
  | '\x08' => ['\\', 'b']
  | '\t' => ['\\', 't']
  | '\n' => if multiline then ['\n'] else ['\\', 'n']
  | '\x0c' => ['\\', 'f']
  | '\r' => ['\\', 'r']
  | '\\' => ['\\', '\\']
  | c =>
    if isPlain c then [c]
    else ['\\', 'u', '0', '0', upperHexDigit (c.toNat / 16), upperHexDigit (c.toNat % 16)]

/-- A text between double quotes, behind `run` quotes in a row. On one line every quote is escaped,
on several lines every third in a row. -/
def escapedFrom (multiline : Bool) (run : Nat) : List Char → List Char
  | [] => []
  | '"' :: cs =>
    if multiline && run < 2 then '"' :: escapedFrom multiline (run + 1) cs
    else '\\' :: '"' :: escapedFrom multiline 0 cs
  | c :: cs => escaped multiline c ++ escapedFrom multiline 0 cs

/-- The quotes around a string. -/
def delimiter (q : QuotedText) : List Char :=
  if q.multiline then [q.quote, q.quote, q.quote] else [q.quote]

/-- A text in a form. On several lines a text with line breaks begins on a line of its own. -/
def writeAs (q : QuotedText) (cs : List Char) : List Char :=
  q.delimiter ++ (if q.multiline && cs.contains '\n' then ['\n'] else [])
    ++ (if q.escapes then escapedFrom q.multiline 0 cs else cs) ++ q.delimiter

/-- A text as a string. -/
def write (s : String) : List Char :=
  (choose s.toList).writeAs s.toList

end QuotedText

end Tuner.Toml
