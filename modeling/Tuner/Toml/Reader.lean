import Tuner.Toml.Quoted
import Tuner.Toml.Scalar

/-!
# Reading TOML

A document is read line by line: a key with its value, a header, a comment, or nothing. Values may
nest and may go over several lines. `parse?` gives the table of a document, or nothing if any line
of it is at fault. Every function that can call itself on a shorter text takes as `fuel` a number
that only has to be as large as the text.
-/

namespace Tuner.Toml

/-! ## Blanks and comments -/

/-- A text without the spaces and tabs it begins with. -/
def skipBlanks (cs : List Char) : List Char :=
  cs.dropWhile fun c => c == ' ' || c == '\t'

/-- What follows a line break, or the end of the text. -/
def lineBreak? : List Char → Option (List Char)
  | [] => some []
  | '\n' :: cs => some cs
  | '\r' :: '\n' :: cs => some cs
  | _ => none

/-- What follows the end of a line, with blanks and a comment before it. -/
def lineEnd? (cs : List Char) : Option (List Char) :=
  match skipBlanks cs with
  | '#' :: cs => lineBreak? (cs.dropWhile QuotedText.isPlain)
  | cs => lineBreak? cs

/-- A text without the blanks, line breaks and comments it begins with. -/
def skipGaps (inComment : Bool) : List Char → List Char
  | [] => []
  | '\r' :: '\n' :: cs => skipGaps false cs
  | c :: cs =>
    if c = '\n' then skipGaps false cs
    else if inComment then if QuotedText.isPlain c then skipGaps true cs else c :: cs
    else if c = ' ' ∨ c = '\t' then skipGaps false cs
    else if c = '#' then skipGaps true cs
    else c :: cs

/-! ## Keys -/

/-- How deeply values may nest, and keys may be dotted. -/
def depthLimit : Nat := 80

/-- Whether a character may stand in a key without quotes. -/
def isKeyChar (c : Char) : Bool :=
  c.isAlphanum || c == '_' || c == '-'

def keyPart? (cs : List Char) : Option (String × List Char) :=
  match cs with
  | '"' :: cs => QuotedText.basic.read cs
  | '\x27' :: cs => QuotedText.literal.read cs
  | cs =>
    let part := cs.takeWhile isKeyChar
    if part.isEmpty then none else some (String.ofList part, cs.dropWhile isKeyChar)

/-- The parts of a key, and what follows it without blanks. Dots with blanks around them stand
between the parts. -/
def keyParts? : Nat → List Char → Option (List String × List Char)
  | 0, _ => none
  | fuel + 1, cs =>
    match keyPart? (skipBlanks cs) with
    | none => none
    | some (part, cs) =>
      match skipBlanks cs with
      | '.' :: cs => (keyParts? fuel cs).map fun r => (part :: r.1, r.2)
      | cs => some ([part], cs)

/-- A key that may have dots: the parts before the last, the last part, and what follows. -/
def key? (cs : List Char) : Option (List String × String × List Char) :=
  match keyParts? (cs.length + 1) cs with
  | none => none
  | some (parts, rest) =>
    if parts.length < depthLimit then parts.getLast?.map fun last => (parts.dropLast, last, rest)
    else none

/-! ## Values -/

mutual

/-- A value inside `depth` others, and what follows it. -/
def value? : Nat → Nat → List Char → Option (Value × List Char)
  | 0, _, _ => none
  | fuel + 1, depth, cs =>
    match QuotedText.open? cs with
    | some (q, cs) => (q.read cs).map fun r => (.string r.1, r.2)
    | none =>
      match cs with
      | '[' :: cs =>
        if depth + 1 < depthLimit then items? fuel (depth + 1) [] (skipGaps false cs) else none
      | '\x7b' :: cs =>
        if depth + 1 < depthLimit then
          match skipBlanks cs with
          | '\x7d' :: cs => some (.table .inline [], cs)
          | cs => members? fuel (depth + 1) [] cs
        else none
      | cs => Scalar.read? cs

/-- The rest of an array behind some items, newest first. -/
def items? : Nat → Nat → List Value → List Char → Option (Value × List Char)
  | 0, _, _, _ => none
  | fuel + 1, depth, items, cs =>
    match cs with
    | ']' :: cs => some (.array items.reverse, cs)
    | cs =>
      match value? fuel depth cs with
      | none => none
      | some (v, cs) =>
        match skipGaps false cs with
        | ',' :: cs => items? fuel depth (v :: items) (skipGaps false cs)
        | ']' :: cs => some (.array (v :: items).reverse, cs)
        | _ => none

/-- The rest of an inline table behind some entries. -/
def members? : Nat → Nat → Entries → List Char → Option (Value × List Char)
  | 0, _, _, _ => none
  | fuel + 1, depth, entries, cs =>
    match key? cs with
    | some (path, key, '=' :: cs) =>
      match value? fuel depth (skipBlanks cs) with
      | none => none
      | some (v, cs) =>
        match entries.insert? path key v with
        | none => none
        | some entries =>
          match skipBlanks cs with
          | ',' :: cs => members? fuel depth entries cs
          | '\x7d' :: cs => some (.table .inline entries, cs)
          | _ => none
    | _ => none

end

/-! ## Lines -/

/-- A document read so far: its table, and the path to the table that keys are added to. -/
structure Document where
  root : Entries := []
  path : List String := []
  deriving Repr

namespace Document

def insert? (path : List String) (key : String) (v : Value) (d : Document) : Option Document :=
  (Entries.updateAt .implied (fun _ es => es.insert? path key v) d.path .defined d.root).map
    fun root => { d with root }

def header? (path : List String) (key : String) (d : Document) : Option Document :=
  (Entries.updateAt .implied (fun _ es => es.define? key) path .defined d.root).map
    fun root => ⟨root, path ++ [key]⟩

/-- The document with a header in double brackets. -/
def element? (path : List String) (key : String) (d : Document) : Option Document :=
  (Entries.updateAt .implied (fun _ es => es.append? key) path .defined d.root).map
    fun root => ⟨root, path ++ [key]⟩

end Document

/-- The document after one line that is not empty, and what follows the last character that
matters. -/
def statement? (fuel : Nat) (d : Document) : List Char → Option (Document × List Char)
  | '[' :: '[' :: cs =>
    match key? cs with
    | some (path, key, ']' :: ']' :: cs) => (d.element? path key).map (·, cs)
    | _ => none
  | '[' :: cs =>
    match key? cs with
    | some (path, key, ']' :: cs) => (d.header? path key).map (·, cs)
    | _ => none
  | cs =>
    match key? cs with
    | some (path, key, '=' :: cs) =>
      match value? fuel 0 (skipBlanks cs) with
      | none => none
      | some (v, cs) => (d.insert? path key v).map (·, cs)
    | _ => none

def lines? : Nat → Document → List Char → Option Document
  | _, d, [] => some d
  | 0, _, _ => none
  | fuel + 1, d, cs =>
    match lineEnd? cs with
    | some cs => lines? fuel d cs
    | none =>
      match statement? (fuel + 1) d (skipBlanks cs) with
      | none => none
      | some (d, cs) =>
        match lineEnd? cs with
        | some cs => lines? fuel d cs
        | none => none

/-- A text without the byte order mark it may begin with. -/
def dropMark : List Char → List Char
  | '\uFEFF' :: cs => cs
  | cs => cs

/-- The table of a document. -/
def parse? (s : String) : Option Entries :=
  let cs := dropMark s.toList
  (lines? (cs.length + 1) {} cs).map (·.root)

end Tuner.Toml
