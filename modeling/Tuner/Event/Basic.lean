/-!
# Events

What the player reports: the track that starts or stops, how far it is, the stations, a snapshot of
all of its state, and the answers to questions about genres, music, the coming songs and a
station's seeds. `EventKind` names the ten kinds of event, and `Event` holds their contents.
-/

namespace Tuner

/-- A track. -/
structure Song where
  title : String := ""
  artist : String := ""
  album : String := ""
  coverArt : String := ""
  /-- Length in seconds. -/
  duration : Float := 0.0
  /-- One for a loved track, zero for one without a rating. -/
  rating : UInt8 := 0
  /-- The station that the track belongs to, which in a mix differs from the active one. -/
  stationName : String := ""
  trackToken : String := ""
  deriving Repr, Inhabited

/-- A track that starts, with the active station if the player names it. -/
structure TrackStart where
  song : Song := {}
  stationId : Option String := none
  station : Option String := none
  deriving Repr, Inhabited

/-- How far a track is, in seconds. -/
structure Progress where
  elapsed : Float := 0.0
  duration : Float := 0.0
  deriving Repr, Inhabited

structure Station where
  id : String := ""
  name : String := ""
  /-- Whether this is the mix of other stations. -/
  isQuickMix : Bool := false
  /-- Whether this ordinary station takes part in the mix. -/
  isQuickMixed : Bool := false
  deriving Repr, Inhabited, DecidableEq

/-- The player's whole state, in answer to a query. What is absent says nothing. -/
structure Snapshot where
  song : Option Song := none
  playing : Option Bool := none
  elapsed : Option Float := none
  station : Option String := none
  stationId : Option String := none
  /-- The output gain in decibels. -/
  volume : Option Float := none
  maxGain : Option Float := none
  deriving Repr, Inhabited

/-- A genre that a station can be made from. -/
structure Genre where
  id : String := ""
  name : String := ""
  deriving Repr, Inhabited, DecidableEq

/-- A group of genres. -/
structure GenreCategory where
  name : String := ""
  genres : List Genre := []
  deriving Repr, Inhabited, DecidableEq

/-- An artist that a search found. -/
structure ArtistMatch where
  id : String := ""
  name : String := ""
  deriving Repr, Inhabited, DecidableEq

/-- A song that a search found. -/
structure SongMatch where
  id : String := ""
  title : String := ""
  artist : String := ""
  deriving Repr, Inhabited, DecidableEq

/-- What a search found. -/
structure SearchResults where
  artists : List ArtistMatch := []
  songs : List SongMatch := []
  deriving Repr, Inhabited, DecidableEq

/-- Whether a search found nothing. -/
def SearchResults.isEmpty (r : SearchResults) : Bool :=
  r.artists.isEmpty && r.songs.isEmpty

/-- A song that is going to be played. -/
structure UpcomingSong where
  title : String := ""
  artist : String := ""
  deriving Repr, Inhabited, DecidableEq

/-- An artist, a song or a genre that a station was made from. -/
structure Seed where
  id : String := ""
  kind : String := ""
  name : String := ""
  deriving Repr, Inhabited, DecidableEq

/-- The seeds of a station. -/
structure StationInfo where
  stationId : Option String := none
  seeds : List Seed := []
  deriving Repr, Inhabited, DecidableEq

inductive EventKind where
  | start
  | stop
  | progress
  | stations
  | process
  | genres
  | searchResults
  | songExplanation
  | upcomingResult
  | stationInfo
  deriving Repr, DecidableEq

namespace EventKind

def all : List EventKind :=
  [start, stop, progress, stations, process, genres, searchResults, songExplanation,
    upcomingResult, stationInfo]

/-- The name under which an event travels. -/
def name : EventKind → String
  | start => "start"
  | stop => "stop"
  | progress => "progress"
  | stations => "stations"
  | process => "process"
  | genres => "genres"
  | searchResults => "searchResults"
  | songExplanation => "song.explanation"
  | upcomingResult => "query.upcoming.result"
  | stationInfo => "stationInfo"

/-- The kind of event that travels under a name. -/
def ofName? (s : String) : Option EventKind :=
  all.find? (·.name == s)

/-- A kind is found again under its name. -/
theorem ofName?_name (k : EventKind) : ofName? k.name = some k := by
  cases k <;> decide

end EventKind

/-- An event with its contents. -/
inductive Event where
  | start (s : TrackStart)
  | stop
  | progress (p : Progress)
  | stations (list : List Station)
  | process (s : Snapshot)
  | genres (list : List GenreCategory)
  | searchResults (r : SearchResults)
  | songExplanation (text : String)
  | upcomingResult (songs : List UpcomingSong)
  | stationInfo (info : StationInfo)
  deriving Repr, Inhabited

def Event.kind : Event → EventKind
  | .start _ => .start
  | .stop => .stop
  | .progress _ => .progress
  | .stations _ => .stations
  | .process _ => .process
  | .genres _ => .genres
  | .searchResults _ => .searchResults
  | .songExplanation _ => .songExplanation
  | .upcomingResult _ => .upcomingResult
  | .stationInfo _ => .stationInfo

end Tuner
