import Tuner.Console.Clock
import Tuner.Console.Order
import Tuner.Deck.Basic

/-!
# What is printed

The console prints items: a status, a listing, a notice. `Item.lines` gives the lines of each, and
identifiers stand right-aligned in columns.
-/

namespace Tuner.Console

/-- Something that is printed. -/
inductive Item where
  | status (line : String)
  /-- A question whether to play a station that was just made. -/
  | prompt (name : String)
  | genres (categories : List GenreCategory)
  | results (r : SearchResults)
  | seeds (seeds : List Seed)
  | notice (message : String) (severity : Severity)
  | stations (activeId : Option String) (stations : List Station)
  | cancelled (dialog : Dialog)
  /-- A station is being made from the song that plays. -/
  | creating
  | help
  deriving Repr, DecidableEq

/-- A text with blanks before it up to a width. -/
def padLeft (width : Nat) (s : String) : String :=
  String.ofList (List.replicate (width - s.length) ' ') ++ s

def genreLines (categories : List GenreCategory) : List String :=
  categories.flatMap fun c =>
    s!"[{c.name}]" :: c.genres.map fun g => s!"  {padLeft 10 g.id}  {g.name}"

def resultLines (r : SearchResults) : List String :=
  r.artists.map (fun a => s!"  artist {padLeft 10 a.id}  {a.name}")
    ++ r.songs.map (fun s => s!"  song   {padLeft 10 s.id}  {s.artist} – {s.title}")
    ++ (if r.isEmpty then ["  (no results)"] else [])

def seedLine (s : Seed) : String :=
  s!"  seed {padLeft 10 s.id}  {s.name} ({s.kind})"

def noticeMark : Severity → String
  | .info => "»"
  | .success => "✓"
  | .warning => "!"
  | .error => "✗"

/-- The mark of a station that mixes others or takes part in the mix. -/
def mixMark (s : Station) : String :=
  if s.isQuickMix then "Q" else if s.isQuickMixed then "q" else " "

def stationLine (activeId : Option String) (s : Station) : String :=
  let active := if activeId == some s.id then "▶" else " "
  s!"{active} {mixMark s} {padLeft 12 s.id}  {s.name}"

def Item.lines : Item → List String
  | status line => [line]
  | prompt name => [s!"★ created \"{name}\": play it now? (yes/no)"]
  | genres categories => genreLines categories
  | results r => resultLines r
  | seeds list => list.map seedLine
  | notice message severity => [s!"{noticeMark severity} {message}"]
  | stations activeId list => list.map (stationLine activeId)
  | cancelled dialog => [s!"cancelled {dialog.name}"]
  | creating => ["… creating station from this song"]
  | help => [helpText]

/-- The mark of a state of playback that is not confirmed. -/
def pendingMark (now : Moment) (playing : Speculative Bool) : String :=
  if playing.isOverdue now then "?" else if playing.isSpeculative then "…" else ""

/-- What plays, in one line. -/
def statusLine (now : Moment) (d : Deck) : String :=
  let icon := if d.isPlaying then "▶" else "■"
  let pending := pendingMark now d.playing
  let love := if 0 < d.song.rating then " ♥" else ""
  let station := d.stationName.getD "-"
  s!"{icon}{pending} {d.song.artist} – {d.song.title}{love}  [{station}]  {Gain.label d.gain}"

/-- The status with how far the song is. -/
def fullStatusLine (now : Moment) (d : Deck) : String :=
  s!"{statusLine now d} {clock d.elapsed}/{clock d.total}"

end Tuner.Console
