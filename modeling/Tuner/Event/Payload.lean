import Tuner.Json.Number

/-!
# Fields of payloads

Players send partial objects, so a payload is read leniently: unknown keys are passed over, a field
that is absent or null takes its default, and a field may go by a second name. What is present must
have the right type. A record may also be sent as an array of its fields in order, where fields at
the end may be left out. `fields?` brings both forms to the list of the fields' values, and the
readers below say what one value means.
-/

namespace Tuner

namespace Payload

/-! ## Values -/

def text? : Json → Option String
  | .string s => some s
  | _ => none

/-- A truth value. -/
def flag? : Json → Option Bool
  | .bool b => some b
  | _ => none

/-- A quantity: any number, as a double. -/
def quantity? : Json → Option Float
  | .number (.integer n) => some (Float.ofInt n)
  | .number (.double x) => some x
  | _ => none

/-- A small count: an integer from 0 to 255. -/
def count? : Json → Option UInt8
  | .number (.integer n) => if 0 ≤ n ∧ n ≤ 255 then some (UInt8.ofNat n.toNat) else none
  | _ => none

/-- How a double is written as an identifier: its digits in place, without a needless point. -/
def identStyle : Decimal.Style :=
  { inPlace := fun _ => true
    wholePoint := false
    tie := .up
    nan := "NaN"
    infinity := "inf" }

/-- An identifier: a text, or a number that some players send instead. An integer of 63 bits and a
sign is written in decimal; any other number counts as a double. -/
def ident? : Json → Option String
  | .string s => some s
  | .number (.integer n) =>
    if n < Word.signedLimit then some (String.ofList (Number.integerChars n))
    else some (identStyle.render (Float.ofInt n))
  | .number (.double x) => some (identStyle.render x)
  | _ => none

/-- A list whose items are all of one type. -/
def list? {α : Type} (read : Json → Option α) : Json → Option (List α)
  | .array items => items.mapM read
  | _ => none

/-! ## Presence -/

/-- A field with a default for when it is absent or null. -/
def orDefault? {α : Type} (default : α) (read : Json → Option α) : Option Json → Option α
  | none => some default
  | some .null => some default
  | some v => read v

/-- A field that may be absent or null. -/
def optional? {α : Type} (read : Json → Option α) : Option Json → Option (Option α)
  | none => some none
  | some .null => some none
  | some v => (read v).map some

/-- A field that must be there. -/
def required? {α : Type} (read : Json → Option α) (v : Option Json) : Option α :=
  v.bind read

/-! ## Records -/

/-- The value of a field among the members of an object. To give it under two names is a fault. -/
def value? (members : List (String × Json)) (names : List String) : Option (Option Json) :=
  match names.filterMap (findMember? · members) with
  | [] => some none
  | [v] => some (some v)
  | _ => none

/-- The values of the fields of a record, in order. `names` has the names of each field. -/
def fields? (names : List (List String)) : Json → Option (List (Option Json))
  | .object members => names.mapM (value? members)
  | .array items =>
    if items.length ≤ names.length then
      some (items.map some ++ List.replicate (names.length - items.length) none)
    else none
  | _ => none

end Payload

end Tuner
