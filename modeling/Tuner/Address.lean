import Tuner.Text.Blank
import Tuner.Text.Quoted

/-!
# Socket addresses

The address of the player's socket follows from the origin of its web page: the scheme chooses
between a plain and a secure socket, the host is kept, and whatever follows the host on the page's
address is dropped for the path of the socket.
-/

namespace Tuner

/-- Why an origin gives no address. Both carry the origin without the blanks around it. -/
inductive AddressError where
  | unsupportedScheme (origin : String)
  | missingHost (origin : String)
  deriving Repr, DecidableEq

/-- A fault of an origin in words. -/
def AddressError.message : AddressError → String
  | .unsupportedScheme origin =>
    s!"origin {Text.quoted origin} must start with http:// or https://"
  | .missingHost origin => s!"origin {Text.quoted origin} has no host"

namespace Address

/-- The path of the socket if none is configured. -/
def defaultPath : String := "/ws"

/-- The scheme of the socket and the text behind the scheme of the page. -/
def splitScheme? (origin : List Char) : Option (String × List Char) :=
  match "https://".toList.isPrefixOf? origin with
  | some rest => some ("wss", rest)
  | none => ("http://".toList.isPrefixOf? origin).map fun rest => ("ws", rest)

def endsHost (c : Char) : Bool :=
  c == '/' || c == '?' || c == '#'

/-- The host that a text starts with. -/
def host (rest : List Char) : List Char :=
  rest.takeWhile (!endsHost ·)

/-- A path without the slashes it starts with. -/
def barePath (path : String) : String :=
  String.ofList (path.toList.dropWhile (· == '/'))

/-- The address of the socket beside the page at an origin. -/
def ofOrigin (origin path : String) : Except AddressError String :=
  let trimmed := Text.trim origin
  match splitScheme? trimmed.toList with
  | none => .error (.unsupportedScheme trimmed)
  | some (scheme, rest) =>
    if (host rest).isEmpty then .error (.missingHost trimmed)
    else .ok (scheme ++ "://" ++ String.ofList (host rest) ++ "/" ++ barePath path)

end Address

end Tuner
