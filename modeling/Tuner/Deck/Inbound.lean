import Tuner.Deck.Basic

/-!
# Events on the deck

How the deck follows what the player reports. A report always wins over what the user has changed in
the meantime. The player does not say which station a wish for a new one has led to: while a wish is
pending, a new list of stations is compared with the one before, and if exactly one of its entries
is new, that is the station. With none or several new entries the wish stays pending.
-/

namespace Tuner.Deck

/-- The deck after the link has opened or closed. -/
def setConnected (now : Moment) (connected : Bool) (d : Deck) : Deck :=
  let after := { d with connected }
  if d.connected && !connected then after.notify now "Disconnected from player" .warning else after

/-- The deck with a song loaded. -/
def load (song : Song) (d : Deck) : Deck :=
  { d with song, total := song.duration }

/-- The deck with the active station changed as far as a report names it. -/
def tune (id name : Option String) (d : Deck) : Deck :=
  { d with stationId := id.or d.stationId, stationName := name.or d.stationName }

def onStart (s : TrackStart) (d : Deck) : Deck :=
  { d.load s.song with elapsed := 0.0, playing := d.playing.confirm true }.tune s.stationId
    s.station

/-- The deck after a song has stopped. The song stays visible. -/
def onStop (d : Deck) : Deck :=
  { d with playing := d.playing.confirm false, elapsed := 0.0, total := 0.0 }

def onProgress (p : Progress) (d : Deck) : Deck :=
  { d with elapsed := p.elapsed, total := p.duration }

/-- The deck with the song of a snapshot, or with nothing playing. -/
def onSnapshotSong (s : Snapshot) (d : Deck) : Deck :=
  match s.song with
  | some song =>
    { d.load song with
      elapsed := s.elapsed.getD 0.0
      playing := d.playing.confirm (s.playing.getD true) }
  | none =>
    { d with
      song := .notPlaying
      playing := d.playing.confirm false
      elapsed := 0.0
      total := 0.0 }

/-- The deck after a snapshot. What the snapshot leaves out stays, the song apart. -/
def onSnapshot (s : Snapshot) (d : Deck) : Deck :=
  let after := (d.onSnapshotSong s).tune s.stationId s.station
  { after with
    maxGain := s.maxGain.getD after.maxGain
    gain := s.volume.getD after.gain }

/-- The entries of a list of stations that are not in the list before. -/
def added (before list : List Station) : List Station :=
  list.filter fun s => !before.any (·.id == s.id)

def onStations (now : Moment) (list : List Station) (d : Deck) : Deck :=
  let after := { d with stations := list }
  match d.pendingCreation, added d.stations list with
  | some _, [s] =>
    { after.notify now s!"Created station \"{s.name}\"" .success with
      newStation := some s
      pendingCreation := none }
  | _, _ => after

def upcomingMessage (songs : List UpcomingSong) : String :=
  if songs.isEmpty then "No upcoming songs"
  else "Upcoming:\n" ++ "\n".intercalate (songs.map fun s => s!"{s.artist} – {s.title}")

/-- Whether the seeds of a station belong to a station other than the one under review. -/
def isForeign (info : StationInfo) (d : Deck) : Bool :=
  match d.flows.seeds.station, info.stationId with
  | some wanted, some got => wanted ≠ got
  | _, _ => false

/-- The deck after the seeds of a station. Those of a station that is not under review are late. -/
def onStationInfo (info : StationInfo) (d : Deck) : Deck :=
  if d.isForeign info then d else { d with stationInfo := some info }

def apply (now : Moment) (e : Event) (d : Deck) : Deck :=
  match e with
  | .start s => d.onStart s
  | .stop => d.onStop
  | .progress p => d.onProgress p
  | .stations list => d.onStations now list
  | .process s => d.onSnapshot s
  | .genres list => { d with genres := list, genresLoading := false }
  | .searchResults r => { d with searchResults := r, searchLoading := false }
  | .songExplanation text => d.notify now text .info
  | .upcomingResult songs => d.notify now (upcomingMessage songs) .info
  | .stationInfo info => d.onStationInfo info

end Tuner.Deck
