import Tuner.Creation
import Tuner.Decimal.Numeral
import Tuner.Text.Blank
import Tuner.Text.Quoted

/-!
# Orders

What a user can type. A line is a word and, behind the first blank, what the word needs: nothing, a
text, a number, or texts of its own. Blanks around the line and around its parts do not count.
`Order.parse` reads a line, and `OrderError` says why a line is no order.
-/

namespace Tuner.Console

/-- What a line asks for. -/
inductive Order where
  | toggle
  | next
  | love
  | ban
  | tired
  | explain
  | upcoming
  | station (id : String)
  | stations
  | volume (percent : Float)
  | search (text : String)
  | genres
  | create (request : CreationRequest)
  | yes
  | no
  | delete (id : String)
  | rename (id name : String)
  | seeds (id : String)
  | unseed (id : String)
  | quickMix (ids : List String)
  | cancel
  | reconnect
  | status
  | help
  | quit
  deriving Repr

/-- Why a line is no order. -/
inductive OrderError where
  /-- A word stands without what it needs. -/
  | missing (word what : String)
  | notANumber (text : String)
  | volumeOutOfRange
  | createUsage
  | renameUsage
  | unknown (word : String)
  deriving Repr, DecidableEq

/-- A fault of a line in words. -/
def OrderError.message : OrderError → String
  | missing word what => s!"{word} needs {what}"
  | notANumber text => s!"not a number: {text}"
  | volumeOutOfRange => "volume must be 0-100"
  | createUsage => "usage: create song|artist|genre <id>|result <id>"
  | renameUsage => "usage: rename <id> <name>"
  | unknown word => s!"unknown command {Text.quoted word} (try help)"

/-- What is printed for help. -/
def helpText : String :=
  "\n".intercalate
    ["toggle | next | love | ban | tired | explain | upcoming",
      "station <id> | stations | vol <0-100> | search <text> | genres",
      "create song|artist | create genre <id> | create result <id> | yes | no",
      "delete <id> | rename <id> <name> | seeds <id> | unseed <seed id>",
      "quickmix <id,id,...> | cancel | reconnect | status | help | quit"]

namespace Order

/-- A line as its first word and what follows it, without the blanks around either. -/
def split (line : List Char) : List Char × List Char :=
  let (word, rest) := Text.splitBlank line
  (word, Text.trimBoth rest)

/-- The text that a word needs. -/
def argument (word what : String) (rest : List Char) : Except OrderError String :=
  if rest.isEmpty then .error (.missing word what) else .ok (String.ofList rest)

/-- A volume: a number from 0 to 100. -/
def volume? (text : String) : Except OrderError Order :=
  match Decimal.parse? text with
  | none => .error (.notANumber text)
  | some percent =>
    if 0 ≤ percent && percent ≤ 100 then .ok (.volume percent) else .error .volumeOutOfRange

/-- A wish for a new station: a word for what it is made from, and an identifier where one is
needed. -/
def creation (rest : List Char) : Except OrderError Order :=
  let (what, id) := split rest
  match String.ofList what with
  | "song" => .ok (.create .fromSong)
  | "artist" => .ok (.create .fromArtist)
  | "genre" =>
    if id.isEmpty then .error .createUsage else .ok (.create (.fromGenre (String.ofList id)))
  | "result" =>
    if id.isEmpty then .error .createUsage else .ok (.create (.fromSearch (String.ofList id)))
  | _ => .error .createUsage

/-- A new name: the identifier of a station, and the name behind it. -/
def renameOf (text : String) : Except OrderError Order :=
  let (id, name) := split text.toList
  if name.isEmpty then .error .renameUsage
  else .ok (.rename (String.ofList id) (String.ofList name))

/-- A text cut at its commas. There is always at least one part. -/
def splitCommas : List Char → List (List Char)
  | [] => [[]]
  | ',' :: cs => [] :: splitCommas cs
  | c :: cs =>
    match splitCommas cs with
    | part :: parts => (c :: part) :: parts
    | [] => [[c]]

/-- The identifiers of a list with commas between them. Empty places do not count. -/
def identifiers (text : String) : List String :=
  (((splitCommas text.toList).map Text.trimBoth).filter (!·.isEmpty)).map String.ofList

def ofWord (word : String) (rest : List Char) : Except OrderError Order :=
  match word with
  | "toggle" | "p" => .ok .toggle
  | "next" | "n" => .ok .next
  | "love" | "+" => .ok .love
  | "ban" | "-" => .ok .ban
  | "tired" => .ok .tired
  | "explain" => .ok .explain
  | "upcoming" => .ok .upcoming
  | "station" => (argument word "a station id" rest).map .station
  | "stations" => .ok .stations
  | "vol" | "volume" => (argument word "a percentage" rest).bind volume?
  | "search" => (argument word "some text" rest).map .search
  | "genres" => .ok .genres
  | "create" => creation rest
  | "yes" | "y" => .ok .yes
  | "no" => .ok .no
  | "delete" => (argument word "a station id" rest).map .delete
  | "rename" => (argument word "a station id and a name" rest).bind renameOf
  | "seeds" => (argument word "a station id" rest).map .seeds
  | "unseed" => (argument word "a seed id" rest).map .unseed
  | "quickmix" => (argument word "station ids" rest).map fun text => .quickMix (identifiers text)
  | "cancel" => .ok .cancel
  | "reconnect" => .ok .reconnect
  | "status" | "" => .ok .status
  | "help" | "?" => .ok .help
  | "quit" | "q" | "exit" => .ok .quit
  | _ => .error (.unknown word)

def parse (line : String) : Except OrderError Order :=
  let (word, rest) := split (Text.trimBoth line.toList)
  ofWord (String.ofList word) rest

end Order

end Tuner.Console
