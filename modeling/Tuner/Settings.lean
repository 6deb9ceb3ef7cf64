import Tuner.Address
import Tuner.Deck.Basic
import Tuner.Toml.Reader

/-!
# Settings

What the user can set: where the player's web page is, how long to wait for its socket, the gain
ceiling until the player reports one, and how long notices are shown. The settings are kept as a
TOML document of three sections. A document may leave out any of them and may hold other keys; what
it has must be of the right type. `Settings.render` writes a document that `parse?` reads back.
-/

namespace Tuner

open Toml

structure Settings where
  origin : String := "http://127.0.0.1:3000"
  path : String := Address.defaultPath
  /-- How many seconds to wait for a socket to open. -/
  connectTimeout : Nat := 10
  maxGain : Float := Gain.defaultCeiling
  /-- How many seconds a notice is shown. -/
  noticeSeconds : Nat := 4
  deriving Repr, DecidableEq

namespace Settings

/-! ## Reading -/

def text? : Value → Option String
  | .string s => some s
  | _ => none

/-- The count of a value: an integer that is not negative. -/
def count? : Value → Option Nat
  | .integer n => if 0 ≤ n then some n.toNat else none
  | _ => none

/-- The quantity of a value: a number of either kind. -/
def quantity? : Value → Option Float
  | .float x => some x
  | .integer n => some (Float.ofInt n)
  | _ => none

/-- What a key is set to, or its default. -/
def setting? {α : Type} (default : α) (read : Value → Option α) : Option Value → Option α
  | none => some default
  | some v => read v

/-- The values of a section's keys, in order. A section may be a table, or an array of the values in
the order of the keys, which may end early and may hold more. A date counts as a section without
any known key. -/
def section? (keys : List String) : Option Value → Option (List (Option Value))
  | none => some (keys.map fun _ => none)
  | some (.table _ entries) => some (keys.map (Entries.find? entries))
  | some (.array items) => some ((List.range keys.length).map (items[·]?))
  | some (.tables elements) =>
    some ((List.range keys.length).map fun i => elements[i]?.map (.table .defined))
  | some .dateTime => some (keys.map fun _ => none)
  | some _ => none

/-- The settings of a document. -/
def ofEntries? (es : Entries) : Option Settings := do
  let server ← section? ["origin", "path", "connect_timeout_secs"] (es.find? "server")
  let audio ← section? ["max_gain"] (es.find? "audio")
  let ui ← section? ["toast_secs"] (es.find? "ui")
  match server, audio, ui with
  | [origin, path, connectTimeout], [maxGain], [noticeSeconds] =>
    let standard : Settings := {}
    let origin ← setting? standard.origin text? origin
    let path ← setting? standard.path text? path
    let connectTimeout ← setting? standard.connectTimeout count? connectTimeout
    let maxGain ← setting? standard.maxGain quantity? maxGain
    let noticeSeconds ← setting? standard.noticeSeconds count? noticeSeconds
    return { origin, path, connectTimeout, maxGain, noticeSeconds }
  | _, _, _ => none

/-- The settings of a text. -/
def parse? (s : String) : Option Settings :=
  (Toml.parse? s).bind ofEntries?

/-! ## Writing -/

def line (key : String) (value : List Char) : List Char :=
  key.toList ++ [' ', '=', ' '] ++ value ++ ['\n']

/-- The header of a section. -/
def header (name : String) : List Char :=
  '[' :: name.toList ++ [']', '\n']

def chars (s : Settings) : List Char :=
  header "server"
    ++ line "origin" (QuotedText.write s.origin)
    ++ line "path" (QuotedText.write s.path)
    ++ line "connect_timeout_secs" (Scalar.writeInteger s.connectTimeout)
    ++ '\n' :: header "audio"
    ++ line "max_gain" (Scalar.writeFloat s.maxGain)
    ++ '\n' :: header "ui"
    ++ line "toast_secs" (Scalar.writeInteger s.noticeSeconds)

/-- The settings as a text. -/
def render (s : Settings) : String :=
  String.ofList s.chars

/-! ## Use -/

/-- How many seconds to wait for a socket: at least one. -/
def timeout (s : Settings) : Nat :=
  max 1 s.connectTimeout

/-- The address of the player's socket. -/
def address (s : Settings) : Except AddressError String :=
  Address.ofOrigin s.origin s.path

/-- The deck at the start. -/
def deck (s : Settings) : Deck :=
  .new s.maxGain (Span.ofSeconds s.noticeSeconds)

/-! ## The file -/

/-- The file of the settings: its text, if it exists. -/
abbrev File := Option String

/-- The file after the settings are looked up: a missing one is written with the defaults. -/
def fileAfterLoad : File → File
  | none => some ({} : Settings).render
  | some text => some text

/-- The settings of the file. A missing one has the defaults. -/
def load? : File → Option Settings
  | none => some {}
  | some text => parse? text

def save (s : Settings) : File :=
  some s.render

/-- The file after the settings are saved. A count that no integer of a document can hold is a
fault, and nothing is written. -/
def save? (s : Settings) : Option File :=
  if s.connectTimeout < Word.signedLimit ∧ s.noticeSeconds < Word.signedLimit then some s.save
  else none

end Settings

end Tuner
