/-!
# JSON values

The values that frames carry. An object is a list of members in rising order of their keys, without
repetition: `insertMember` keeps that order, and a repeated key takes the later value. A number is
an integer of 64 bits or a double, and the two stay apart.
-/

namespace Tuner

/-- A number in a JSON value. -/
inductive Number where
  | integer (n : Int)
  | double (x : Float)
  deriving Repr, Inhabited

/-- A JSON value. -/
inductive Json where
  | null
  | bool (b : Bool)
  | number (n : Number)
  | string (s : String)
  | array (items : List Json)
  | object (members : List (String × Json))
  deriving Repr, Inhabited

/-- The members with the value of one key set, in order of the keys. -/
def insertMember {α : Type} (key : String) (value : α) : List (String × α) → List (String × α)
  | [] => [(key, value)]
  | (k, v) :: rest =>
    if key < k then (key, value) :: (k, v) :: rest
    else if key = k then (key, value) :: rest
    else (k, v) :: insertMember key value rest

/-- The value of a key. -/
def findMember? {α : Type} (key : String) (members : List (String × α)) : Option α :=
  (members.find? (·.1 == key)).map (·.2)

namespace Json

/-- The object of some members, given in any order. -/
def ofMembers (members : List (String × Json)) : Json :=
  .object (members.foldl (fun ms m => insertMember m.1 m.2 ms) [])

/-- An integer as a value. -/
def ofInt (n : Int) : Json :=
  .number (.integer n)

/-- A double as a value. What is not a finite number has no JSON form and becomes null. -/
def ofFloat (x : Float) : Json :=
  if x.isFinite then .number (.double x) else .null

/-- An optional value, null if it is absent. -/
def ofOption (value : Option Json) : Json :=
  value.getD .null

end Json

end Tuner
