import Tuner.Dialog
import Tuner.Event.Basic
import Tuner.Gain
import Tuner.Notice
import Tuner.Speculative

/-!
# The deck

The deck is everything that is shown to the user: what plays, the stations, the answers to
questions, the dialogs and the notices that wait. Events of the player and intents of the user
change it; the modules beside this one say how.
-/

namespace Tuner

/-- All that is shown to the user. -/
structure Deck where
  connected : Bool := false
  song : Song
  playing : Speculative Bool := .confirmed false
  /-- How far the song is, in seconds. -/
  elapsed : Float := 0.0
  /-- The length of the song, in seconds. -/
  total : Float := 0.0
  /-- The output gain in decibels. -/
  gain : Float := 0.0
  /-- The highest gain of the slider. -/
  maxGain : Float
  stations : List Station := []
  /-- The active station. -/
  stationId : Option String := none
  stationName : Option String := none
  genres : List GenreCategory := []
  genresLoading : Bool := false
  searchQuery : Option String := none
  searchResults : SearchResults := {}
  searchLoading : Bool := false
  stationInfo : Option StationInfo := none
  /-- The station that was asked for and has not shown up, by what it is made from. -/
  pendingCreation : Option CreationKind := none
  /-- A station that has just been made, while the user is asked whether to play it. -/
  newStation : Option Station := none
  flows : Flows := {}
  notices : Notices
  deriving Repr

/-- What stands in the place of a song while nothing plays. -/
def Song.notPlaying : Song :=
  { title := "Not Playing", artist := "-" }

namespace Deck

/-- A deck before anything has happened. -/
def new (maxGain : Float) (noticeLifetime : Span) : Deck :=
  { song := .notPlaying, maxGain, notices := .empty noticeLifetime }

/-- Whether a song is shown as playing. -/
def isPlaying (d : Deck) : Bool :=
  d.playing.value

def gainPercent (d : Deck) : Float :=
  Gain.toPercent d.gain d.maxGain

/-- The station with an identifier. -/
def station? (id : String) (d : Deck) : Option Station :=
  d.stations.find? (·.id == id)

def quickMixStation? (d : Deck) : Option Station :=
  d.stations.find? (·.isQuickMix)

/-- The deck with one more notice. -/
def notify (now : Moment) (message : String) (severity : Severity) (d : Deck) : Deck :=
  { d with notices := d.notices.push now message severity }

end Deck

end Tuner
