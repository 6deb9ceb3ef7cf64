import Tuner.Json.Token

/-!
# Reading JSON

A text is cut into tokens, and the tokens drive a machine that holds the containers still open. The
machine refuses a container that would be nested too deeply: `Json.parse?` allows 127 levels,
counting the outermost one. A text is one value and nothing else; of a key that is repeated in an
object the last value stays.
-/

namespace Tuner.Json

/-- A container still open while a value inside it is read. -/
inductive Frame where
  /-- An array and the items before the value, newest first. -/
  | array (items : List Json)
  /-- An object, the members before the value, and the key of the value. -/
  | object (members : List (String × Json)) (key : String)
  deriving Repr

/-- What has been read, and so what may follow. `outer` are the open containers around that place,
innermost first. -/
inductive Reading where
  | value (outer : List Frame)
  | firstItem (outer : List Frame)
  | nextItem (items : List Json) (outer : List Frame)
  | firstKey (outer : List Frame)
  | key (members : List (String × Json)) (outer : List Frame)
  | colon (members : List (String × Json)) (key : String) (outer : List Frame)
  | nextKey (members : List (String × Json)) (outer : List Frame)
  | done (v : Json)
  deriving Repr

namespace Reading

/-- The place behind a complete value. -/
def complete (v : Json) : List Frame → Reading
  | [] => .done v
  | .array items :: outer => .nextItem (v :: items) outer
  | .object members k :: outer => .nextKey (insertMember k v members) outer

/-- The place behind the first token of a value. -/
def begin? (depth : Nat) (outer : List Frame) : Token → Option Reading
  | .null => some (complete .null outer)
  | .bool b => some (complete (.bool b) outer)
  | .number n => some (complete (.number n) outer)
  | .string s => some (complete (.string s) outer)
  | .beginArray => if outer.length < depth then some (.firstItem outer) else none
  | .beginObject => if outer.length < depth then some (.firstKey outer) else none
  | _ => none

/-- The place behind one more token. -/
def step? (depth : Nat) : Reading → Token → Option Reading
  | .value outer, t => begin? depth outer t
  | .firstItem outer, .endArray => some (complete (.array []) outer)
  | .firstItem outer, t => begin? depth (.array [] :: outer) t
  | .nextItem items outer, .comma => some (.value (.array items :: outer))
  | .nextItem items outer, .endArray => some (complete (.array items.reverse) outer)
  | .firstKey outer, .endObject => some (complete (.object []) outer)
  | .firstKey outer, .string k => some (.colon [] k outer)
  | .key members outer, .string k => some (.colon members k outer)
  | .colon members k outer, .colon => some (.value (.object members k :: outer))
  | .nextKey members outer, .comma => some (.key members outer)
  | .nextKey members outer, .endObject => some (complete (.object members) outer)
  | _, _ => none

/-- The value that has been read, if nothing is missing. -/
def result? : Reading → Option Json
  | .done v => some v
  | _ => none

end Reading

/-- The value of a sequence of tokens, with at most `depth` containers inside one another. -/
def ofTokens? (depth : Nat) (ts : List Token) : Option Json :=
  (ts.foldlM (Reading.step? depth) (.value [])).bind Reading.result?

/-- The value of a text, in characters, with at most `depth` containers inside one another. -/
def ofChars? (depth : Nat) (cs : List Char) : Option Json :=
  (Token.scan? cs).bind (ofTokens? depth)

/-- The number of containers that may be inside one another. -/
def maxDepth : Nat := 127

/-- The value of a text. -/
def parse? (s : String) : Option Json :=
  ofChars? maxDepth s.toList

end Tuner.Json
