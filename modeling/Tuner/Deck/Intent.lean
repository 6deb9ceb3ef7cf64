import Tuner.Command
import Tuner.Deck.Basic
import Tuner.Text.Blank

/-!
# Intents of the user

What the user can do. An intent changes the deck at once where that makes sense, and issues at most
one command; neither depends on whether the command reaches the player. `Deck.perform` gives the
changed deck, the command, and how it is decided whether the intent succeeded.
-/

namespace Tuner

/-- What a user can ask for. -/
inductive Intent where
  | togglePlayback
  | skip
  | love
  | ban
  | snooze
  | explain
  | upcoming
  | setGain (percent : Float)
  | changeStation (id : String)
  | deleteStation (id : String)
  | renameStation (id name : String)
  | setQuickMix (ids : List String)
  | requestGenres
  | search (text : String)
  | create (request : CreationRequest)
  | cancelCreation
  | acceptNewStation
  | dismissNewStation
  | cancel (dialog : Dialog)
  | chooseSource (kind : CreationKind)
  | chooseStation (dialog : Dialog) (id : String)
  | searchIn (dialog : Dialog) (text : String)
  | chooseItem (dialog : Dialog) (id : String)
  | setName (name : String)
  | confirm (dialog : Dialog)
  deriving Repr

/-- How it is decided whether an intent succeeded. -/
inductive Verdict where
  /-- It succeeds if its command reaches the player. -/
  | byLink
  | fixed (success : Bool)
  deriving Repr, DecidableEq

/-- Whether an intent succeeded, given whether its command reached the player. -/
def Verdict.settle (reached : Bool) : Verdict → Bool
  | byLink => reached
  | fixed success => success

/-- What comes of an intent. -/
structure Outcome where
  deck : Deck
  command : Option Command := none
  verdict : Verdict
  deriving Repr

namespace Outcome

/-- A command that decides over success. -/
def sending (c : Command) (d : Deck) : Outcome :=
  { deck := d, command := some c, verdict := .byLink }

/-- No command. -/
def settled (success : Bool) (d : Deck) : Outcome :=
  { deck := d, verdict := .fixed success }

end Outcome

namespace Deck

/-! ## Stations -/

/-- The stations with exactly some of the ordinary ones in the mix. -/
def mixing (ids : List String) (stations : List Station) : List Station :=
  stations.map fun s =>
    if s.isQuickMix then s else { s with isQuickMixed := ids.contains s.id }

/-- A wish for a new station. It replaces a wish that is still pending. -/
def issueCreation (kind : CreationKind) (c : Command) (d : Deck) : Outcome :=
  .sending c { d with pendingCreation := some kind, newStation := none }

/-- A new station made with the song that plays, if the song is known. -/
def createFromTrack (now : Moment) (kind : CreationKind) (source : String → StationSource)
    (d : Deck) : Outcome :=
  if d.song.trackToken.isEmpty then .settled false (d.notify now "Nothing is playing" .warning)
  else d.issueCreation kind (.createFrom (source d.song.trackToken))

/-- A new station. -/
def create (now : Moment) (request : CreationRequest) (d : Deck) : Outcome :=
  match request with
  | .fromSong => d.createFromTrack now .song .song
  | .fromArtist => d.createFromTrack now .artist .artist
  | .fromGenre id => d.issueCreation .genre (.addGenre id)
  | .fromSearch id => d.issueCreation .search (.createFrom (.music id))

/-- Play the new station. -/
def acceptNewStation (d : Deck) : Outcome :=
  match d.newStation with
  | some s => .sending (.changeStation s.id) { d with newStation := none }
  | none => .settled false d

/-! ## Browsing -/

/-- Ask for the genres. -/
def requestGenres (d : Deck) : Outcome :=
  .sending .getGenres { d with genresLoading := true }

/-- Search for music. -/
def search (text : String) (d : Deck) : Outcome :=
  .sending (.search (Text.trim text))
    { d with searchQuery := some (Text.trim text), searchLoading := true }

def clearSearch (d : Deck) : Deck :=
  { d with searchQuery := none, searchResults := {}, searchLoading := false }

/-! ## Dialogs -/

def flow (dialog : Dialog) (d : Deck) : Flow :=
  d.flows.get dialog

def setFlow (dialog : Dialog) (f : Flow) (d : Deck) : Deck :=
  { d with flows := d.flows.set dialog f }

/-- The deck with a dialog returned to its start, and with what the dialog had asked for cleared. -/
def cancel (dialog : Dialog) (d : Deck) : Deck :=
  let after := d.setFlow dialog {}
  match dialog with
  | .createStation => after.clearSearch
  | .addMusic => after.clearSearch
  | .seeds => { after with stationInfo := none }
  | .rename => after
  | .delete => after

/-- Choose what the new station is made from. A song or an artist needs no search, and a genre is
picked from a list that is asked for. -/
def chooseSource (kind : CreationKind) (d : Deck) : Outcome :=
  let f := d.flow .createStation
  if f.isAt .createStation .selectSource then
    let f := { f with source := some kind }
    match kind with
    | .song | .artist =>
      .settled (f.ahead? .createStation .confirm).isSome
        (d.setFlow .createStation (f.skipTo .createStation .confirm))
    | .search =>
      .settled (f.canAdvance .createStation)
        (d.setFlow .createStation (f.advance .createStation))
    | .genre =>
      { (d.setFlow .createStation (f.advance .createStation)).requestGenres with
        verdict := .fixed true }
  else .settled false d

/-- The text that a dialog begins with once its station is chosen: a new name begins as the old. -/
def initialText (dialog : Dialog) (id : String) (d : Deck) : String :=
  match dialog, d.station? id with
  | .rename, some s => s.name
  | _, _ => (d.flow dialog).text

def chooseStation (dialog : Dialog) (id : String) (d : Deck) : Outcome :=
  let f := d.flow dialog
  if f.isAt dialog .selectStation then
    let f := { f with station := some id, text := d.initialText dialog id }
    let after := d.setFlow dialog (f.advance dialog)
    match dialog with
    | .seeds =>
      { deck := { after with stationInfo := none }
        command := some (.getStationInfo id)
        verdict := .fixed true }
    | _ => .settled true after
  else .settled false d

/-- Search inside a dialog. Genres are searched in the list at hand. -/
def searchIn (dialog : Dialog) (text : String) (d : Deck) : Outcome :=
  let f := d.flow dialog
  if f.isAt dialog .search then
    let after := d.setFlow dialog { f with text }
    if dialog = .createStation ∧ f.source = some .genre then .settled true after
    else after.search text
  else .settled false d

/-- Pick a music, a genre or a seed. -/
def chooseItem (dialog : Dialog) (id : String) (d : Deck) : Outcome :=
  let f := d.flow dialog
  if f.isAt dialog .search || f.isAt dialog .reviewSeeds then
    let f := { f with selection := some id }
    .settled (f.canAdvance dialog) (d.setFlow dialog (f.advance dialog))
  else .settled false d

/-- Set the new name of a station. A name of blanks is none. -/
def setName (name : String) (d : Deck) : Outcome :=
  let f := d.flow .rename
  if f.isAt .rename .editName && !(Text.trim name).isEmpty then
    let f := { f with text := Text.trim name }
    .settled (f.canAdvance .rename) (d.setFlow .rename (f.advance .rename))
  else .settled false d

/-- What the fields of the dialog for new stations ask for. -/
def requestOf (f : Flow) : Option CreationRequest :=
  match f.source, f.selection with
  | some .song, _ => some .fromSong
  | some .artist, _ => some .fromArtist
  | some .genre, some id => some (.fromGenre id)
  | some .search, some id => some (.fromSearch id)
  | _, _ => none

/-- What a dialog asks for once it is confirmed. -/
def submit (now : Moment) (dialog : Dialog) (d : Deck) : Outcome :=
  let f := d.flow dialog
  match dialog with
  | .createStation =>
    match requestOf f with
    | some request => d.create now request
    | none => .settled false d
  | .addMusic =>
    match f.station, f.selection with
    | some stationId, some musicId => .sending (.addMusic stationId musicId) d
    | _, _ => .settled false d
  | .rename =>
    match f.station with
    | some id => .sending (.renameStation id f.text) d
    | none => .settled false d
  | .delete =>
    match f.station with
    | some id => .sending (.deleteStation id) d
    | none => .settled false d
  | .seeds =>
    match f.selection with
    | some id => .sending (.deleteSeed id) d
    | none => .settled false d

/-- Confirm a dialog at its last stage. The dialog returns to its start in any case. -/
def confirm (now : Moment) (dialog : Dialog) (d : Deck) : Outcome :=
  if (d.flow dialog).isAt dialog .confirm then
    let o := d.submit now dialog
    { o with deck := o.deck.cancel dialog }
  else .settled false d

/-! ## All intents -/

def perform (now : Moment) (intent : Intent) (d : Deck) : Outcome :=
  match intent with
  | .togglePlayback =>
    .sending (.action .togglePlayback) { d with playing := d.playing.speculate now (!d.isPlaying) }
  | .skip => .sending (.action .skip) d
  | .love => .sending (.action .love) { d with song := { d.song with rating := 1 } }
  | .ban => .sending (.action .ban) d
  | .snooze => .sending (.action .tired) d
  | .explain => .sending (.action .explain) d
  | .upcoming => .sending (.action .upcoming) d
  | .setGain percent =>
    let percent := Gain.clamp 0 100 percent
    .sending (.setGain percent) { d with gain := Gain.ofPercent percent d.maxGain }
  | .changeStation id => .sending (.changeStation id) d
  | .deleteStation id => .sending (.deleteStation id) d
  | .renameStation id name => .sending (.renameStation id name) d
  | .setQuickMix ids => .sending (.setQuickMix ids) { d with stations := mixing ids d.stations }
  | .requestGenres => d.requestGenres
  | .search text => d.search text
  | .create request => d.create now request
  | .cancelCreation => .settled true { d with pendingCreation := none }
  | .acceptNewStation => d.acceptNewStation
  | .dismissNewStation => .settled true { d with newStation := none }
  | .cancel dialog => .settled true (d.cancel dialog)
  | .chooseSource kind => d.chooseSource kind
  | .chooseStation dialog id => d.chooseStation dialog id
  | .searchIn dialog text => d.searchIn dialog text
  | .chooseItem dialog id => d.chooseItem dialog id
  | .setName name => d.setName name
  | .confirm dialog => d.confirm now dialog

end Deck

end Tuner
