import Tuner.Decimal.Binary
import Tuner.Envelope

/-!
# Commands

What a client asks of the player. Each command travels as an event of its own name, and playback
actions share one name with the output gain, of which only a whole percentage is sent.
-/

namespace Tuner

/-- An action on playback or on the track that plays. -/
inductive PlayerAction where
  | togglePlayback
  | skip
  | love
  | ban
  /-- Put the track aside for a month. -/
  | tired
  | explain
  | upcoming
  deriving Repr, DecidableEq

/-- The name that an action travels under. -/
def PlayerAction.name : PlayerAction → String
  | togglePlayback => "playback.toggle"
  | skip => "playback.next"
  | love => "song.love"
  | ban => "song.ban"
  | tired => "song.tired"
  | explain => "song.explain"
  | upcoming => "query.upcoming"

/-- What a new station is made from. -/
inductive StationSource where
  /-- A track. -/
  | song (trackToken : String)
  /-- The artist of a track. -/
  | artist (trackToken : String)
  /-- An artist or a song that a search found. -/
  | music (musicId : String)
  deriving Repr, DecidableEq

/-- A command to the player. -/
inductive Command where
  /-- Ask for a snapshot of all state. -/
  | query
  | action (a : PlayerAction)
  /-- Set the output gain, as a percentage of the slider. -/
  | setGain (percent : Float)
  | changeStation (stationId : String)
  | createFrom (source : StationSource)
  | addGenre (genreId : String)
  | addMusic (stationId musicId : String)
  | deleteStation (stationId : String)
  | renameStation (stationId name : String)
  | setQuickMix (stationIds : List String)
  | getGenres
  | search (text : String)
  | getStationInfo (stationId : String)
  | deleteSeed (seedId : String)
  deriving Repr

/-- A percentage as it is sent: the nearest whole number from 0 to 100, a half going up. What is no
number counts as zero. -/
def wholePercent (percent : Float) : Nat :=
  match Decimal.Binary.ofFloat percent with
  | .nan => 0
  | .infinite negative => if negative then 0 else 100
  | .finite negative m q => if negative then 0 else min 100 (Decimal.nearestWhole m q)

namespace Command

open Json

/-- The name that a command travels under. -/
def eventName : Command → String
  | query => "query"
  | action _ => "action"
  | setGain _ => "action"
  | changeStation _ => "station.change"
  | createFrom _ => "station.createFrom"
  | addGenre _ => "station.addGenre"
  | addMusic _ _ => "station.addMusic"
  | deleteStation _ => "station.delete"
  | renameStation _ _ => "station.rename"
  | setQuickMix _ => "station.setQuickMix"
  | getGenres => "station.getGenres"
  | search _ => "music.search"
  | getStationInfo _ => "station.getInfo"
  | deleteSeed _ => "station.deleteSeed"

def payload : Command → Json
  | query => .null
  | action a => .string a.name
  | setGain percent =>
    ofMembers [("action", .string "volume"), ("volume", ofInt (wholePercent percent))]
  | changeStation id => ofMembers [("stationId", .string id)]
  | createFrom (.song token) => ofMembers [("type", .string "song"), ("trackToken", .string token)]
  | createFrom (.artist token) =>
    ofMembers [("type", .string "artist"), ("trackToken", .string token)]
  | createFrom (.music id) => ofMembers [("musicId", .string id)]
  | addGenre id => ofMembers [("genreId", .string id)]
  | addMusic stationId musicId =>
    ofMembers [("stationId", .string stationId), ("musicId", .string musicId)]
  | deleteStation id => ofMembers [("stationId", .string id)]
  | renameStation id name => ofMembers [("stationId", .string id), ("name", .string name)]
  | setQuickMix ids => ofMembers [("stationIds", .array (ids.map .string))]
  | getGenres => .null
  | search text => ofMembers [("query", .string text)]
  | getStationInfo id => ofMembers [("stationId", .string id)]
  | deleteSeed id => ofMembers [("seedId", .string id)]

def toEnvelope (c : Command) : Envelope :=
  ⟨c.eventName, c.payload⟩

def frame (c : Command) : String :=
  c.toEnvelope.encode

end Command

end Tuner
