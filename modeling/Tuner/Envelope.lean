import Tuner.Json.Printer
import Tuner.Json.Reader

/-!
# Envelopes

The player and its clients exchange text frames. A frame that carries an event is the mark `2`
followed by a JSON array of the event's name and its payload; any other frame is part of the
connection's own upkeep and means nothing here. `Envelope.encode` writes the frame of an event, and
`Packet.decode` says what a frame carries.
-/

namespace Tuner

/-- A named event with its payload. -/
structure Envelope where
  event : String
  /-- Null if the sender gave none. -/
  payload : Json
  deriving Repr, Inhabited

/-- What a frame carries. -/
inductive Packet where
  | event (e : Envelope)
  /-- The frame has no event mark. This is no fault. -/
  | other
  deriving Repr

/-- Why the text behind an event mark carries no event. -/
inductive FrameError where
  /-- The text is not JSON. -/
  | notJson
  | notArray
  /-- The array has none or more than two elements. -/
  | elementCount (n : Nat)
  | nameNotString
  deriving Repr, DecidableEq

/-- A fault of a frame in words. A text that is not JSON has no account of its own here. -/
def FrameError.message : FrameError → String
  | .notJson => "malformed frame"
  | .notArray => "malformed frame: expected a JSON array"
  | .elementCount n => s!"malformed frame: expected [event, payload], got {n} elements"
  | .nameNotString => "malformed frame: event name is not a string"

/-- The mark of frames that carry an event. -/
def eventMark : Char := '2'

/-- The array that stands for an event behind the mark. -/
def Envelope.body (e : Envelope) : Json :=
  .array [.string e.event, e.payload]

/-- The frame of an event. -/
def Envelope.encode (e : Envelope) : String :=
  String.ofList (eventMark :: e.body.chars)

/-- The event that an array stands for. A payload that is left out is null. -/
def Envelope.ofItems : List Json → Except FrameError Envelope
  | [.string event] => .ok ⟨event, .null⟩
  | [.string event, payload] => .ok ⟨event, payload⟩
  | [_] => .error .nameNotString
  | [_, _] => .error .nameNotString
  | items => .error (.elementCount items.length)

/-- What a frame carries. -/
def Packet.decode (frame : String) : Except FrameError Packet :=
  match frame.toList with
  | [] => .ok .other
  | c :: body =>
    if c = eventMark then
      match Json.ofChars? Json.maxDepth body with
      | none => .error .notJson
      | some (.array items) => (Envelope.ofItems items).map .event
      | some _ => .error .notArray
    else .ok .other

end Tuner
