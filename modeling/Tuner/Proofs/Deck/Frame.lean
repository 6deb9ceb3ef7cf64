import Tuner.Deck.Inbound
import Tuner.Deck.Intent

/-!
# What intents and events leave alone

The gestures on dialogs are many, and they all stay within a few fields of the deck. So do the ways
to ask for a new station. Each of the two groups is one relation between the deck before and the
deck after, and whoever needs to know that some other field is as it was rewrites with it.

Four intents show a change of what the player reports before the player has reported it.
`perform_anticipates` says that an intent does this, if it is one of the four, and beyond it changes
only what belongs to the user's own questions. Events that answer such questions stay within the
same fields.
-/

namespace Tuner.Deck

variable {now : Moment} {d : Deck}

/-! ## Gestures on dialogs -/

/-- At most the dialogs differ, and what is asked for in them. -/
def DialogsOnly (d d' : Deck) : Prop :=
  d' = { d with
    flows := d'.flows
    genresLoading := d'.genresLoading
    searchQuery := d'.searchQuery
    searchResults := d'.searchResults
    searchLoading := d'.searchLoading
    stationInfo := d'.stationInfo }

/-- To cancel a dialog clears what it had asked for, and that is part of the dialogs too. -/
theorem dialogsOnly_cancel (dialog : Dialog) : d.DialogsOnly (d.cancel dialog) := by
  cases dialog <;> rfl

theorem dialogsOnly_search (text : String) : d.DialogsOnly (d.search text).deck := rfl

/-- A source moves the dialog on, and that of a genre asks for the genres. -/
theorem dialogsOnly_chooseSource (kind : CreationKind) :
    d.DialogsOnly (d.chooseSource kind).deck := by
  unfold chooseSource
  dsimp only
  split
  · -- at the stage for it, any of the four sources
    cases kind <;> rfl
  · rfl

/-- A station moves the dialog on, and that of the seeds forgets the seeds that were shown. -/
theorem dialogsOnly_chooseStation (dialog : Dialog) (id : String) :
    d.DialogsOnly (d.chooseStation dialog id).deck := by
  unfold chooseStation
  dsimp only
  split
  · cases dialog <;> rfl
  · rfl

theorem dialogsOnly_searchIn (dialog : Dialog) (text : String) :
    d.DialogsOnly (d.searchIn dialog text).deck := by
  unfold searchIn
  dsimp only
  split
  · split <;> rfl
  · rfl

/-- An item moves the dialog on, whichever of the dialogs it is. -/
theorem dialogsOnly_chooseItem (dialog : Dialog) (id : String) :
    d.DialogsOnly (d.chooseItem dialog id).deck := by
  unfold chooseItem
  dsimp only
  split <;> rfl

theorem dialogsOnly_setName (name : String) : d.DialogsOnly (d.setName name).deck := by
  unfold setName
  dsimp only
  split <;> rfl

/-! ## Asking for a new station -/

/-- At most the wish for a new station, the prompt for it and the notices differ. -/
def CreationOnly (d d' : Deck) : Prop :=
  d' = { d with
    pendingCreation := d'.pendingCreation
    newStation := d'.newStation
    notices := d'.notices }

/-- Whether or not a track is known: a wish is raised, or a notice says that nothing plays. -/
theorem creationOnly_createFromTrack (kind : CreationKind) (source : String → StationSource) :
    d.CreationOnly (d.createFromTrack now kind source).deck := by
  unfold createFromTrack
  split <;> rfl

/-- Two kinds of request need the track, the other two only raise a wish. -/
theorem creationOnly_create (request : CreationRequest) :
    d.CreationOnly (d.create now request).deck := by
  cases request with
  | fromSong => exact creationOnly_createFromTrack .song .song
  | fromArtist => exact creationOnly_createFromTrack .artist .artist
  | fromGenre id => rfl
  | fromSearch id => rfl

/-- To accept the prompt takes it away. -/
theorem creationOnly_acceptNewStation : d.CreationOnly d.acceptNewStation.deck := by
  unfold acceptNewStation
  split <;> rfl

/-- Only the dialog for new stations raises a wish; the other dialogs hand over a command and leave
the deck as it is. -/
theorem creationOnly_submit (dialog : Dialog) : d.CreationOnly (d.submit now dialog).deck := by
  unfold submit
  dsimp only
  cases dialog with
  | createStation =>
    dsimp only
    split
    · -- the fields say what to make
      exact creationOnly_create _
    · rfl
  | _ =>
    dsimp only
    split <;> rfl

/-! ## All intents -/

/-- At most what the user asks for or is asked differs: the dialogs, the wish for a new station, the
prompt for it, and the notices. -/
def AskingOnly (d d' : Deck) : Prop :=
  d' = { d with
    genresLoading := d'.genresLoading
    searchQuery := d'.searchQuery
    searchResults := d'.searchResults
    searchLoading := d'.searchLoading
    stationInfo := d'.stationInfo
    pendingCreation := d'.pendingCreation
    newStation := d'.newStation
    flows := d'.flows
    notices := d'.notices }

theorem AskingOnly.refl (d : Deck) : d.AskingOnly d := rfl

theorem AskingOnly.connected {d' : Deck} (h : d.AskingOnly d') : d'.connected = d.connected := by
  rw [h]

theorem AskingOnly.song {d' : Deck} (h : d.AskingOnly d') : d'.song = d.song := by
  rw [h]

theorem AskingOnly.playing {d' : Deck} (h : d.AskingOnly d') : d'.playing = d.playing := by
  rw [h]

theorem AskingOnly.stations {d' : Deck} (h : d.AskingOnly d') : d'.stations = d.stations := by
  rw [h]

theorem DialogsOnly.asking {d' : Deck} (h : d.DialogsOnly d') : d.AskingOnly d' := by
  rw [h]
  rfl

theorem CreationOnly.asking {d' : Deck} (h : d.CreationOnly d') : d.AskingOnly d' := by
  rw [h]
  rfl

/-- What only asks twice only asks. With this a dialog that is confirmed is taken in two steps, what
it asks for and its return to the start. -/
theorem AskingOnly.trans {d₁ d₂ d₃ : Deck} (h : d₁.AskingOnly d₂) (h' : d₂.AskingOnly d₃) :
    d₁.AskingOnly d₃ := by
  rw [h', h]
  rfl

/-- A dialog that is confirmed raises a wish at most, and then it is cancelled. -/
theorem askingOnly_confirm (dialog : Dialog) : d.AskingOnly (d.confirm now dialog).deck := by
  unfold confirm
  split
  · exact (creationOnly_submit dialog).asking.trans (dialogsOnly_cancel dialog).asking
  · exact .refl d

/-- The deck with what an intent shows ahead of the player's report. -/
def anticipate (now : Moment) (i : Intent) (d : Deck) : Deck :=
  match i with
  | .togglePlayback => { d with playing := d.playing.speculate now (!d.isPlaying) }
  | .love => { d with song := { d.song with rating := 1 } }
  | .setGain percent => { d with gain := Gain.ofPercent (Gain.clamp 0 100 percent) d.maxGain }
  | .setQuickMix ids => { d with stations := mixing ids d.stations }
  | _ => d

/-- **An intent shows a change ahead of its report, and beyond that it only asks.** -/
theorem perform_anticipates (now : Moment) (i : Intent) (d : Deck) :
    (d.anticipate now i).AskingOnly (d.perform now i).deck := by
  cases i with
  | create request => exact (creationOnly_create request).asking
  | acceptNewStation => exact creationOnly_acceptNewStation.asking
  | cancel dialog => exact (dialogsOnly_cancel dialog).asking
  | chooseSource kind => exact (dialogsOnly_chooseSource kind).asking
  | chooseStation dialog id => exact (dialogsOnly_chooseStation dialog id).asking
  | searchIn dialog text => exact (dialogsOnly_searchIn dialog text).asking
  | chooseItem dialog id => exact (dialogsOnly_chooseItem dialog id).asking
  | setName name => exact (dialogsOnly_setName name).asking
  | confirm dialog => exact askingOnly_confirm dialog
  -- Four intents show a change ahead, and the others not named above set fields of the questions.
  | _ => rfl

/-! ## Events that answer -/

/-- A connection that is lost adds a notice to the change of the flag. -/
theorem askingOnly_setConnected (isLive : Bool) :
    AskingOnly { d with connected := isLive } (d.setConnected now isLive) := by
  unfold setConnected
  dsimp only
  split <;> rfl

/-- A list of stations may settle a wish, and then a prompt and a notice come with it. -/
theorem askingOnly_onStations (list : List Station) :
    AskingOnly { d with stations := list } (d.onStations now list) := by
  unfold onStations
  dsimp only
  split <;> rfl

theorem askingOnly_onStationInfo (info : StationInfo) : d.AskingOnly (d.onStationInfo info) := by
  unfold onStationInfo
  split <;> rfl

end Tuner.Deck
