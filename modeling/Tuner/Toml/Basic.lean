/-!
# TOML documents

A document is a table of keys and values. Tables come about in several ways, and which later lines
may still add to a table depends on the way: an inline table is complete, a table with a header has
all of its own keys below the header, and a table that was only passed through, by dots in a key or
in a header, is still open. `updateAt` walks a path of tables under these rules.
-/

namespace Tuner.Toml

/-- How a table came about. -/
inductive Standing where
  /-- Written out in braces. -/
  | inline
  /-- By a header of its own, or as the document itself. -/
  | defined
  /-- By dots in a key. -/
  | dotted
  /-- By dots in a header below it. -/
  | implied
  deriving Repr, DecidableEq

/-- A value in a document. -/
inductive Value where
  | string (s : String)
  | integer (n : Int)
  | float (x : Float)
  | bool (b : Bool)
  /-- A date, a time of day, or both. -/
  | dateTime
  | array (items : List Value)
  | table (standing : Standing) (entries : List (String × Value))
  /-- The tables under headers in double brackets. -/
  | tables (elements : List (List (String × Value)))
  deriving Repr, Inhabited

/-- The keys of a table with their values, in the order of the document. -/
abbrev Entries := List (String × Value)

namespace Entries

def find? (es : Entries) (key : String) : Option Value :=
  (List.find? (·.1 == key) es).map (·.2)

/-- The table with the value of an existing key replaced. -/
def replace (key : String) (value : Value) (es : Entries) : Entries :=
  es.map fun e => if e.1 = key then (key, value) else e

/-- The table with a new key. A key that exists cannot be set again. -/
def add? (key : String) (value : Value) (es : Entries) : Option Entries :=
  match es.find? key with
  | none => some (es ++ [(key, value)])
  | some _ => none

/-- The table with a change in the table at the end of a path. Missing tables on the path come about
as `missing`. A path does not lead into values, and a path of dots in a key does not lead into
tables that have a header. Of tables in double brackets the path leads into the last. -/
def updateAt (missing : Standing) (change : Standing → Entries → Option Entries) :
    List String → Standing → Entries → Option Entries
  | [], standing, es => change standing es
  | key :: path, _, es =>
    match es.find? key with
    | none => (updateAt missing change path missing []).map fun sub =>
        es ++ [(key, .table missing sub)]
    | some (.table standing sub) =>
      if standing = .inline ∨ missing = .dotted ∧ standing = .defined then none
      else (updateAt missing change path standing sub).map fun sub =>
        es.replace key (.table standing sub)
    | some (.tables elements) =>
      match elements.getLast? with
      | none => none
      | some last => (updateAt missing change path .defined last).map fun last =>
          es.replace key (.tables (elements.dropLast ++ [last]))
    | some _ => none

/-- The table with a value under a dotted key. The keys before the last name tables, which must have
come about by dots. -/
def insert? (path : List String) (key : String) (value : Value) (es : Entries) : Option Entries :=
  updateAt .dotted
    (fun standing es =>
      if path.isEmpty ∨ standing = .dotted then es.add? key value else none)
    path .defined es

/-- The table with a header for a table in it. A table has one header at most. -/
def define? (key : String) (es : Entries) : Option Entries :=
  match es.find? key with
  | none => some (es ++ [(key, .table .defined [])])
  | some (.table .implied sub) => some (es.replace key (.table .defined sub))
  | some _ => none

/-- The table with one more header in double brackets for a key. -/
def append? (key : String) (es : Entries) : Option Entries :=
  match es.find? key with
  | none => some (es ++ [(key, .tables [[]])])
  | some (.tables elements) => some (es.replace key (.tables (elements ++ [[]])))
  | some _ => none

end Entries

end Tuner.Toml
