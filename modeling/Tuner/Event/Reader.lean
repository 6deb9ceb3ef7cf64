import Tuner.Envelope
import Tuner.Event.Basic
import Tuner.Event.Payload

/-!
# Reading events

`Event.ofEnvelope` gives the event of an envelope. An unknown name is no fault and has no event; a
payload that does not fit a known name is one. A payload of null stands for the empty payload.
-/

namespace Tuner

open Payload

def Song.fieldNames : List (List String) :=
  [["title"], ["artist"], ["album"], ["coverArt"], ["duration", "songDuration"], ["rating"],
    ["stationName", "songStationName"], ["trackToken"]]

/-- The song with the given values of its fields. -/
def Song.ofFields? : List (Option Json) → Option Song
  | [title, artist, album, coverArt, duration, rating, stationName, trackToken] => do
    let title ← orDefault? "" text? title
    let artist ← orDefault? "" text? artist
    let album ← orDefault? "" text? album
    let coverArt ← orDefault? "" text? coverArt
    let duration ← orDefault? 0.0 quantity? duration
    let rating ← orDefault? 0 count? rating
    let stationName ← orDefault? "" text? stationName
    let trackToken ← orDefault? "" text? trackToken
    return { title, artist, album, coverArt, duration, rating, stationName, trackToken }
  | _ => none

def Song.ofJson? (v : Json) : Option Song :=
  (fields? Song.fieldNames v).bind Song.ofFields?

/-- A track that starts: one object with the fields of the song and of the station. -/
def TrackStart.ofJson? : Json → Option TrackStart
  | .object members => do
    let song ← Song.ofJson? (.object members)
    let stationId ← optional? ident? (findMember? "stationId" members)
    let station ← optional? text? (findMember? "station" members)
    return { song, stationId, station }
  | _ => none

def Progress.fieldNames : List (List String) :=
  [["elapsed"], ["duration", "total"]]

/-- A progress report. -/
def Progress.ofJson? (v : Json) : Option Progress := do
  match ← fields? Progress.fieldNames v with
  | [elapsed, duration] =>
    let elapsed ← orDefault? 0.0 quantity? elapsed
    let duration ← orDefault? 0.0 quantity? duration
    return { elapsed, duration }
  | _ => none

def Station.fieldNames : List (List String) :=
  [["id"], ["name"], ["isQuickMix"], ["isQuickMixed"]]

def Station.ofJson? (v : Json) : Option Station := do
  match ← fields? Station.fieldNames v with
  | [id, name, isQuickMix, isQuickMixed] =>
    let id ← required? ident? id
    let name ← orDefault? "" text? name
    let isQuickMix ← orDefault? false flag? isQuickMix
    let isQuickMixed ← orDefault? false flag? isQuickMixed
    return { id, name, isQuickMix, isQuickMixed }
  | _ => none

def Snapshot.fieldNames : List (List String) :=
  [["song"], ["playing"], ["elapsed"], ["station"], ["stationId"], ["volume"], ["maxGain"]]

def Snapshot.ofJson? (v : Json) : Option Snapshot := do
  match ← fields? Snapshot.fieldNames v with
  | [song, playing, elapsed, station, stationId, volume, maxGain] =>
    let song ← optional? Song.ofJson? song
    let playing ← optional? flag? playing
    let elapsed ← optional? quantity? elapsed
    let station ← optional? text? station
    let stationId ← optional? ident? stationId
    let volume ← optional? quantity? volume
    let maxGain ← optional? quantity? maxGain
    return { song, playing, elapsed, station, stationId, volume, maxGain }
  | _ => none

def Genre.fieldNames : List (List String) :=
  [["id"], ["name"]]

def Genre.ofJson? (v : Json) : Option Genre := do
  match ← fields? Genre.fieldNames v with
  | [id, name] =>
    let id ← required? ident? id
    let name ← orDefault? "" text? name
    return { id, name }
  | _ => none

def GenreCategory.fieldNames : List (List String) :=
  [["name"], ["genres"]]

/-- A group of genres. -/
def GenreCategory.ofJson? (v : Json) : Option GenreCategory := do
  match ← fields? GenreCategory.fieldNames v with
  | [name, genres] =>
    let name ← orDefault? "" text? name
    let genres ← orDefault? [] (list? Genre.ofJson?) genres
    return { name, genres }
  | _ => none

/-- The fields of an artist that a search found, with their names. -/
def ArtistMatch.fieldNames : List (List String) :=
  [["id", "musicId"], ["name"]]

/-- An artist that a search found. -/
def ArtistMatch.ofJson? (v : Json) : Option ArtistMatch := do
  match ← fields? ArtistMatch.fieldNames v with
  | [id, name] =>
    let id ← required? ident? id
    let name ← orDefault? "" text? name
    return { id, name }
  | _ => none

/-- The fields of a song that a search found, with their names. -/
def SongMatch.fieldNames : List (List String) :=
  [["id", "musicId"], ["title"], ["artist"]]

/-- A song that a search found. -/
def SongMatch.ofJson? (v : Json) : Option SongMatch := do
  match ← fields? SongMatch.fieldNames v with
  | [id, title, artist] =>
    let id ← required? ident? id
    let title ← orDefault? "" text? title
    let artist ← orDefault? "" text? artist
    return { id, title, artist }
  | _ => none

def SearchResults.fieldNames : List (List String) :=
  [["artists"], ["songs"]]

/-- What a search found. -/
def SearchResults.ofJson? (v : Json) : Option SearchResults := do
  match ← fields? SearchResults.fieldNames v with
  | [artists, songs] =>
    let artists ← orDefault? [] (list? ArtistMatch.ofJson?) artists
    let songs ← orDefault? [] (list? SongMatch.ofJson?) songs
    return { artists, songs }
  | _ => none

def UpcomingSong.fieldNames : List (List String) :=
  [["title"], ["artist"]]

/-- A coming song. -/
def UpcomingSong.ofJson? (v : Json) : Option UpcomingSong := do
  match ← fields? UpcomingSong.fieldNames v with
  | [title, artist] =>
    let title ← orDefault? "" text? title
    let artist ← orDefault? "" text? artist
    return { title, artist }
  | _ => none

def Seed.fieldNames : List (List String) :=
  [["id", "seedId"], ["type"], ["name"]]

def Seed.ofJson? (v : Json) : Option Seed := do
  match ← fields? Seed.fieldNames v with
  | [id, kind, name] =>
    let id ← required? ident? id
    let kind ← orDefault? "" text? kind
    let name ← orDefault? "" text? name
    return { id, kind, name }
  | _ => none

/-- The fields of a station's seeds, with their names. -/
def StationInfo.fieldNames : List (List String) :=
  [["stationId"], ["seeds"]]

/-- The seeds of a station. -/
def StationInfo.ofJson? (v : Json) : Option StationInfo := do
  match ← fields? StationInfo.fieldNames v with
  | [stationId, seeds] =>
    let stationId ← optional? ident? stationId
    let seeds ← orDefault? [] (list? Seed.ofJson?) seeds
    return { stationId, seeds }
  | _ => none

/-- An explanation: a text, or an object that has one. -/
def explanation? : Json → Option String
  | .string s => some s
  | .object members => (findMember? "explanation" members).bind text?
  | _ => none

/-- Why an envelope with a known name carries no event. -/
inductive EventError where
  /-- The payload does not have the type of this kind of event. -/
  | payload (kind : EventKind)
  /-- The payload of an explanation has no text. -/
  | noExplanation
  deriving Repr, DecidableEq

/-- A fault of a payload in words. -/
def EventError.message : EventError → String
  | .payload kind => s!"bad payload for \"{kind.name}\""
  | .noExplanation =>
    s!"bad payload for \"{EventKind.songExplanation.name}\": expected a string or \x7bexplanation\x7d"

namespace Event

/-- The contents of a payload, where a null payload is empty. -/
def orEmpty? {α : Type} (empty : α) (read : Json → Option α) (v : Json) : Option α :=
  orDefault? empty read (some v)

def ofPayload? (payload : Json) : EventKind → Option Event
  | .start => (orEmpty? {} TrackStart.ofJson? payload).map .start
  | .stop => some .stop
  | .progress => (orEmpty? {} Progress.ofJson? payload).map .progress
  | .stations => (orEmpty? [] (list? Station.ofJson?) payload).map .stations
  | .process => (orEmpty? {} Snapshot.ofJson? payload).map .process
  | .genres => (orEmpty? [] (list? GenreCategory.ofJson?) payload).map .genres
  | .searchResults => (orEmpty? {} SearchResults.ofJson? payload).map .searchResults
  | .songExplanation => (explanation? payload).map .songExplanation
  | .upcomingResult => (orEmpty? [] (list? UpcomingSong.ofJson?) payload).map .upcomingResult
  | .stationInfo => (orEmpty? {} StationInfo.ofJson? payload).map .stationInfo

/-- What is at fault when a payload carries no event of a kind. -/
def fault : EventKind → EventError
  | .songExplanation => .noExplanation
  | kind => .payload kind

/-- The event of an envelope, or none if its name is unknown. -/
def ofEnvelope (e : Envelope) : Except EventError (Option Event) :=
  match EventKind.ofName? e.event with
  | none => .ok none
  | some kind =>
    match ofPayload? e.payload kind with
    | some event => .ok (some event)
    | none => .error (fault kind)

end Event

end Tuner
