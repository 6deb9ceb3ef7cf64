import Tuner.Json.Token

/-!
# JSON text

A value is written as its tokens without blanks between them, the members of an object in the order
of their keys.
-/

namespace Tuner.Json

mutual

/-- The tokens of a value. -/
def tokens : Json → List Token
  | .null => [.null]
  | .bool b => [.bool b]
  | .number n => [.number n]
  | .string s => [.string s]
  | .array items => .beginArray :: (itemTokens items ++ [.endArray])
  | .object members => .beginObject :: (memberTokens members ++ [.endObject])

/-- The tokens of an array's items, with commas between the items. -/
def itemTokens : List Json → List Token
  | [] => []
  | [v] => v.tokens
  | v :: rest => v.tokens ++ .comma :: itemTokens rest

/-- The tokens of an object's members, with commas between the members. -/
def memberTokens : List (String × Json) → List Token
  | [] => []
  | [(k, v)] => .string k :: .colon :: v.tokens
  | (k, v) :: rest => .string k :: .colon :: (v.tokens ++ .comma :: memberTokens rest)

end

/-- A comma stands between two items. -/
theorem itemTokens_cons_cons (v w : Json) (rest : List Json) :
    itemTokens (v :: w :: rest) = v.tokens ++ .comma :: itemTokens (w :: rest) := rfl

/-- A comma stands between two members. -/
theorem memberTokens_cons_cons (k : String) (v : Json) (m : String × Json)
    (rest : List (String × Json)) :
    memberTokens ((k, v) :: m :: rest) =
      .string k :: .colon :: (v.tokens ++ .comma :: memberTokens (m :: rest)) := rfl

/-- A value as text, in characters. -/
def chars (v : Json) : List Char :=
  v.tokens.flatMap Token.chars

/-- A value as text. -/
def render (v : Json) : String :=
  String.ofList v.chars

end Tuner.Json
