import Tuner.Envelope
import Tuner.Event.Basic

/-!
# Writing events

An event is written with all of its fields under their first names, absent ones as null. Reading it
again gives the same event, as long as its quantities are finite.
-/

namespace Tuner

open Json

def Song.members (s : Song) : List (String × Json) :=
  [("title", .string s.title), ("artist", .string s.artist), ("album", .string s.album),
    ("coverArt", .string s.coverArt), ("duration", ofFloat s.duration),
    ("rating", ofInt s.rating.toNat), ("stationName", .string s.stationName),
    ("trackToken", .string s.trackToken)]

/-- A song as a value. -/
def Song.toJson (s : Song) : Json :=
  ofMembers s.members

def TrackStart.toJson (s : TrackStart) : Json :=
  ofMembers (s.song.members ++
    [("stationId", ofOption (s.stationId.map .string)),
      ("station", ofOption (s.station.map .string))])

/-- A progress report as a value. -/
def Progress.toJson (p : Progress) : Json :=
  ofMembers [("elapsed", ofFloat p.elapsed), ("duration", ofFloat p.duration)]

/-- A station as a value. -/
def Station.toJson (s : Station) : Json :=
  ofMembers [("id", .string s.id), ("name", .string s.name), ("isQuickMix", .bool s.isQuickMix),
    ("isQuickMixed", .bool s.isQuickMixed)]

/-- A snapshot as a value. -/
def Snapshot.toJson (s : Snapshot) : Json :=
  ofMembers [("song", ofOption (s.song.map Song.toJson)),
    ("playing", ofOption (s.playing.map .bool)),
    ("elapsed", ofOption (s.elapsed.map ofFloat)), ("station", ofOption (s.station.map .string)),
    ("stationId", ofOption (s.stationId.map .string)), ("volume", ofOption (s.volume.map ofFloat)),
    ("maxGain", ofOption (s.maxGain.map ofFloat))]

/-- A genre as a value. -/
def Genre.toJson (g : Genre) : Json :=
  ofMembers [("id", .string g.id), ("name", .string g.name)]

/-- A group of genres as a value. -/
def GenreCategory.toJson (c : GenreCategory) : Json :=
  ofMembers [("name", .string c.name), ("genres", .array (c.genres.map Genre.toJson))]

/-- An artist that a search found as a value. -/
def ArtistMatch.toJson (a : ArtistMatch) : Json :=
  ofMembers [("id", .string a.id), ("name", .string a.name)]

/-- A song that a search found as a value. -/
def SongMatch.toJson (s : SongMatch) : Json :=
  ofMembers [("id", .string s.id), ("title", .string s.title), ("artist", .string s.artist)]

/-- What a search found as a value. -/
def SearchResults.toJson (r : SearchResults) : Json :=
  ofMembers [("artists", .array (r.artists.map ArtistMatch.toJson)),
    ("songs", .array (r.songs.map SongMatch.toJson))]

/-- A coming song as a value. -/
def UpcomingSong.toJson (s : UpcomingSong) : Json :=
  ofMembers [("title", .string s.title), ("artist", .string s.artist)]

/-- A seed as a value. -/
def Seed.toJson (s : Seed) : Json :=
  ofMembers [("id", .string s.id), ("type", .string s.kind), ("name", .string s.name)]

/-- The seeds of a station as a value. -/
def StationInfo.toJson (i : StationInfo) : Json :=
  ofMembers [("stationId", ofOption (i.stationId.map .string)),
    ("seeds", .array (i.seeds.map Seed.toJson))]

namespace Event

def payload : Event → Json
  | .start s => s.toJson
  | .stop => .null
  | .progress p => p.toJson
  | .stations list => .array (list.map Station.toJson)
  | .process s => s.toJson
  | .genres list => .array (list.map GenreCategory.toJson)
  | .searchResults r => r.toJson
  | .songExplanation text => .string text
  | .upcomingResult songs => .array (songs.map UpcomingSong.toJson)
  | .stationInfo info => info.toJson

def toEnvelope (e : Event) : Envelope :=
  ⟨e.kind.name, e.payload⟩

end Event

end Tuner
