import Tuner.Deck.History
import Tuner.Proofs.Deck.Frame
import Tuner.Proofs.Dialog

/-!
# Dialogs on the deck

A dialog that is confirmed at its last stage has branches for fields that are missing. None of them
is ever taken: every gesture on a dialog keeps its flow sound, nothing else touches a flow, and a
sound flow at its last stage is ready. So a confirmed dialog always asks for what its fields say,
with one exception that is no fault of the dialog, a station from what plays while nothing does.
-/

namespace Tuner.Deck

variable {now : Moment} {d d' : Deck} {dialog : Dialog} {op : Op}

/-! ## Sound dialogs -/

/-- All dialogs have what they should have where they are. -/
def DialogsSound (d : Deck) : Prop :=
  ∀ dialog, (d.flow dialog).Sound dialog

/-- Whether dialogs are sound is a matter of the flows alone. -/
theorem dialogsSound_of_flows (h : d.DialogsSound) (hflows : d'.flows = d.flows) :
    d'.DialogsSound := by
  intro dialog
  rw [flow, hflows]
  exact h dialog

/-- One dialog may be replaced by a sound one. -/
theorem dialogsSound_setFlow {f : Flow} (h : d.DialogsSound) (hf : f.Sound dialog) :
    (d.setFlow dialog f).DialogsSound := by
  intro other
  rw [flow, setFlow, Flows.get_set]
  split
  · rename_i heq
    -- the dialog that is replaced
    rw [← heq]
    exact hf
  · exact h other

/-- Whatever else is cleared, a dialog that is cancelled has its flow reset. -/
theorem flows_cancel (dialog : Dialog) (d : Deck) :
    (d.cancel dialog).flows = d.flows.set dialog {} := by
  cases dialog <;> rfl

theorem dialogsSound_cancel (dialog : Dialog) (h : d.DialogsSound) :
    (d.cancel dialog).DialogsSound :=
  dialogsSound_of_flows (dialogsSound_setFlow h (Flow.sound_idle dialog)) (flows_cancel dialog d)

/-! ## Gestures -/

/-- The source is kept where it was chosen: the dialog goes on to the search, or skips it if there
is nothing to search for. -/
theorem dialogsSound_chooseSource (kind : CreationKind) (h : d.DialogsSound) :
    (d.chooseSource kind).deck.DialogsSound := by
  unfold chooseSource
  dsimp only
  split
  · rename_i hat
    have hposition := Flow.position_selectSource hat
    -- Nothing is passed yet, so the source may be put into the flow.
    have hf : ({ d.flow .createStation with source := some kind } : Flow).Sound .createStation :=
      (h .createStation).change rfl (by simp [hposition])
    have hadvance : (({ d.flow .createStation with source := some kind } : Flow).advance
        .createStation).Sound .createStation := hf.advance hat rfl
    cases kind with
    | song => exact dialogsSound_setFlow h (Flow.sound_skipTo hposition (Or.inl rfl))
    | artist => exact dialogsSound_setFlow h (Flow.sound_skipTo hposition (Or.inr rfl))
    | search => exact dialogsSound_setFlow h hadvance
    | genre => exact dialogsSound_of_flows (dialogsSound_setFlow h hadvance) rfl
  · exact h

/-- The station, and with it the text that the dialog begins with, are put into the flow at the one
stage that leaves them. -/
theorem dialogsSound_chooseStation (dialog : Dialog) (id : String) (h : d.DialogsSound) :
    (d.chooseStation dialog id).deck.DialogsSound := by
  unfold chooseStation
  dsimp only
  split
  · rename_i hat
    have hposition := Flow.position_selectStation hat
    have hf : ({ d.flow dialog with station := some id, text := d.initialText dialog id } :
        Flow).Sound dialog := (h dialog).change rfl (by simp [hposition])
    -- the flow is sound with the station in it, and so it is one stage further
    have hset := dialogsSound_setFlow h (hf.advance hat rfl)
    split
    · exact dialogsSound_of_flows hset rfl
    · exact hset
  · exact h

/-- A search leaves a dialog where it is. Its text is no name, since the stage for a name cannot lie
before a stage for a search. -/
theorem dialogsSound_searchIn (dialog : Dialog) (text : String) (h : d.DialogsSound) :
    (d.searchIn dialog text).deck.DialogsSound := by
  unfold searchIn
  dsimp only
  split
  · rename_i hat
    have hf : ({ d.flow dialog with text } : Flow).Sound dialog := by
      refine (h dialog).change rfl fun s hs hleft => Flow.left_text text ?_ hleft
      -- the name would be passed already, and it is not
      rintro rfl
      exact Flow.editName_not_passed hat hs
    split
    · exact dialogsSound_setFlow h hf
    · exact dialogsSound_of_flows (dialogsSound_setFlow h hf) rfl
  · exact h

/-- The two stages with items to pick leave a selection behind. -/
theorem dialogsSound_chooseItem (dialog : Dialog) (id : String) (h : d.DialogsSound) :
    (d.chooseItem dialog id).deck.DialogsSound := by
  unfold chooseItem
  dsimp only
  split
  · rename_i hat
    have hf : ({ d.flow dialog with selection := some id } : Flow).Sound dialog :=
      (h dialog).change rfl fun s _ hleft => Flow.left_selection id hleft
    refine dialogsSound_setFlow h ?_
    -- An item is picked at two kinds of stage, and it is what both of them leave.
    rcases Bool.or_eq_true_iff.mp hat with hat | hat
    · exact hf.advance hat (Or.inl rfl)
    · exact hf.advance hat rfl
  · exact h

/-- A name that is taken is trimmed and not empty, as the stage for it must leave it. -/
theorem dialogsSound_setName (name : String) (h : d.DialogsSound) :
    (d.setName name).deck.DialogsSound := by
  -- A blank name is not taken, and any other is trimmed before it is put into the flow.
  unfold setName
  dsimp only
  split
  · rename_i hguard
    obtain ⟨hat, hname⟩ := Bool.and_eq_true_iff.mp hguard
    have hposition : (d.flow .rename).position = 1 := Flow.position_eq hat
    have hf : ({ d.flow .rename with text := Text.trim name } : Flow).Sound .rename := by
      refine (h .rename).change rfl fun s hs hleft => Flow.left_text _ ?_ hleft
      -- The stage for the name is not passed yet.
      rintro rfl
      rw [hposition] at hs
      exact absurd hs (by decide)
    refine dialogsSound_setFlow h (hf.advance hat ⟨Text.trim_trim name, ?_⟩)
    show Text.trim name ≠ ""
    intro hempty
    rw [hempty] at hname
    exact absurd hname (by decide)
  · exact h

/-! ## What a confirmed dialog asks for -/

/-- The command that the fields of a dialog ask for. -/
inductive Asks (d : Deck) : Dialog → Command → Prop where
  | song (hsource : (d.flow .createStation).source = some .song) (htrack : d.song.trackToken ≠ "") :
      Asks d .createStation (.createFrom (.song d.song.trackToken))
  | artist (hsource : (d.flow .createStation).source = some .artist)
      (htrack : d.song.trackToken ≠ "") :
      Asks d .createStation (.createFrom (.artist d.song.trackToken))
  | genre (id : String) (hsource : (d.flow .createStation).source = some .genre)
      (hselection : (d.flow .createStation).selection = some id) :
      Asks d .createStation (.addGenre id)
  | search (id : String) (hsource : (d.flow .createStation).source = some .search)
      (hselection : (d.flow .createStation).selection = some id) :
      Asks d .createStation (.createFrom (.music id))
  | addMusic (stationId musicId : String) (hstation : (d.flow .addMusic).station = some stationId)
      (hselection : (d.flow .addMusic).selection = some musicId) :
      Asks d .addMusic (.addMusic stationId musicId)
  | rename (id : String) (hstation : (d.flow .rename).station = some id) :
      Asks d .rename (.renameStation id (d.flow .rename).text)
  | delete (id : String) (hstation : (d.flow .delete).station = some id) :
      Asks d .delete (.deleteStation id)
  | seeds (id : String) (hselection : (d.flow .seeds).selection = some id) :
      Asks d .seeds (.deleteSeed id)

/-- A dialog asks for a station from what plays, while nothing plays that has a token. -/
def LacksTrack (d : Deck) (dialog : Dialog) : Prop :=
  dialog = .createStation ∧ d.song.trackToken = "" ∧
    ((d.flow .createStation).source = some .song ∨ (d.flow .createStation).source = some .artist)

/-- An outcome that asks for what a dialog's fields say, or that only says that nothing plays. -/
def Answers (now : Moment) (d : Deck) (dialog : Dialog) (o : Outcome) : Prop :=
  (∃ c, d.Asks dialog c ∧ o.command = some c ∧ ∀ reached, o.verdict.settle reached = reached) ∨
    d.LacksTrack dialog ∧ o.command = none ∧ (∀ reached, o.verdict.settle reached = false) ∧
      o.deck.notices = d.notices.push now "Nothing is playing" .warning

/-- A station from what plays is asked for, or there is no track and a warning says so. -/
theorem answers_createFromTrack {kind : CreationKind} {source : String → StationSource}
    (hkind : (d.flow .createStation).source = some .song ∨
      (d.flow .createStation).source = some .artist)
    (hasks : d.song.trackToken ≠ "" →
      d.Asks .createStation (.createFrom (source d.song.trackToken))) :
    Answers now d .createStation (d.createFromTrack now kind source) := by
  unfold createFromTrack
  split
  · rename_i hempty
    -- nothing plays
    exact Or.inr ⟨⟨rfl, String.isEmpty_iff.mp hempty, hkind⟩, rfl, fun _ => rfl, rfl⟩
  · rename_i htrack
    have htrack : d.song.trackToken ≠ "" := fun h => htrack (String.isEmpty_iff.mpr h)
    exact Or.inl ⟨_, hasks htrack, rfl, fun _ => rfl⟩

/-- A command that the fields ask for is an answer, whatever is changed along with it. -/
theorem answers_sending {c : Command} {after : Deck} (h : d.Asks dialog c) :
    Answers now d dialog (.sending c after) :=
  Or.inl ⟨c, h, rfl, fun _ => rfl⟩

/-- The dialog for new stations: each source finds what it needs in the flow, as the flow is ready.
-/
theorem answers_createStation (h : (d.flow .createStation).Ready .createStation) :
    Answers now d .createStation (d.submit now .createStation) := by
  obtain ⟨hsource, hselection⟩ := h
  obtain ⟨kind, hkind⟩ := Option.isSome_iff_exists.mp hsource
  unfold submit requestOf
  dsimp only
  -- The source decides, and one that is searched for has its selection.
  rw [hkind] at hselection ⊢
  cases kind with
  | song => exact answers_createFromTrack (Or.inl hkind) (Asks.song hkind)
  | artist => exact answers_createFromTrack (Or.inr hkind) (Asks.artist hkind)
  | genre =>
    obtain ⟨id, hid⟩ := Option.isSome_iff_exists.mp (hselection (Or.inl rfl))
    rw [hid]
    exact answers_sending (Asks.genre id hkind hid)
  | search =>
    obtain ⟨id, hid⟩ := Option.isSome_iff_exists.mp (hselection (Or.inr rfl))
    rw [hid]
    exact answers_sending (Asks.search id hkind hid)

/-- **A ready dialog asks for its command.** The branches for missing fields are never taken. -/
theorem answers_submit (h : (d.flow dialog).Ready dialog) :
    Answers now d dialog (d.submit now dialog) := by
  cases dialog with
  | createStation => exact answers_createStation h
  | addMusic =>
    obtain ⟨hstation, hselection⟩ := h
    obtain ⟨stationId, hstation⟩ := Option.isSome_iff_exists.mp hstation
    obtain ⟨musicId, hselection⟩ := Option.isSome_iff_exists.mp hselection
    simp only [submit, hstation, hselection]
    exact answers_sending (Asks.addMusic stationId musicId hstation hselection)
  | rename =>
    -- The name is whatever the flow holds, since a flow without a text has the empty one.
    obtain ⟨id, hstation⟩ := Option.isSome_iff_exists.mp h.1
    simp only [submit, hstation]
    exact answers_sending (Asks.rename id hstation)
  | delete =>
    obtain ⟨id, hstation⟩ := Option.isSome_iff_exists.mp h
    simp only [submit, hstation]
    exact answers_sending (Asks.delete id hstation)
  | seeds =>
    obtain ⟨id, hselection⟩ := Option.isSome_iff_exists.mp h.2
    simp only [submit, hselection]
    exact answers_sending (Asks.seeds id hselection)

/-- At its last stage a dialog submits and is cancelled. -/
theorem confirm_eq (hat : (d.flow dialog).isAt dialog .confirm = true) :
    d.confirm now dialog =
      { d.submit now dialog with deck := (d.submit now dialog).deck.cancel dialog } := by
  rw [confirm, if_pos hat]

/-- What is handed over is as if the dialog were not cancelled behind it. -/
theorem answers_confirm (hat : (d.flow dialog).isAt dialog .confirm = true)
    (h : (d.flow dialog).Ready dialog) : Answers now d dialog (d.confirm now dialog) := by
  have hsubmit : Answers now d dialog (d.submit now dialog) := answers_submit h
  rw [confirm_eq hat]
  rcases hsubmit with hsends | ⟨hlacks, hcommand, hverdict, hnotices⟩
  · exact Or.inl hsends
  · refine Or.inr ⟨hlacks, hcommand, hverdict, ?_⟩
    rw [dialogsOnly_cancel]
    exact hnotices

theorem flow_confirm (hat : (d.flow dialog).isAt dialog .confirm = true) :
    (d.confirm now dialog).deck.flow dialog = {} := by
  rw [confirm_eq hat, flow, flows_cancel, Flows.get_set, if_pos rfl]

/-! ## Runs -/

theorem dialogsSound_of_creationOnly (h : d.DialogsSound) (hdeck : d.CreationOnly d') :
    d'.DialogsSound :=
  dialogsSound_of_flows h (by rw [hdeck])

/-- A confirmed dialog begins again, and the others are not touched. -/
theorem dialogsSound_confirm (dialog : Dialog) (h : d.DialogsSound) :
    (d.confirm now dialog).deck.DialogsSound := by
  unfold confirm
  split
  · exact dialogsSound_cancel dialog (dialogsSound_of_creationOnly h (creationOnly_submit dialog))
  · exact h

/-- Events do not touch the dialogs. -/
theorem flows_apply (e : Event) : (d.apply now e).flows = d.flows := by
  cases e with
  | stations list =>
    -- a prompt and a notice at most
    show (d.onStations now list).flows = _
    unfold onStations
    dsimp only
    split <;> rfl
  | process snapshot =>
    show (d.onSnapshot snapshot).flows = _
    unfold onSnapshot onSnapshotSong
    dsimp only
    split <;> rfl
  | stationInfo info =>
    show (d.onStationInfo info).flows = _
    unfold onStationInfo
    split <;> rfl
  | _ => rfl

theorem flows_setConnected (isLive : Bool) : (d.setConnected now isLive).flows = d.flows := by
  unfold setConnected
  dsimp only
  split <;> rfl

/-- Every intent keeps all dialogs sound. Five of them fill a dialog in, two return it to its start,
and the others touch none. -/
theorem dialogsSound_perform (i : Intent) (h : d.DialogsSound) :
    (d.perform now i).deck.DialogsSound := by
  cases i with
  | chooseSource kind => exact dialogsSound_chooseSource kind h
  | chooseStation dialog id => exact dialogsSound_chooseStation dialog id h
  | searchIn dialog text => exact dialogsSound_searchIn dialog text h
  | chooseItem dialog id => exact dialogsSound_chooseItem dialog id h
  | setName name => exact dialogsSound_setName name h
  | confirm dialog => exact dialogsSound_confirm dialog h
  | cancel dialog => exact dialogsSound_cancel dialog h
  | create request => exact dialogsSound_of_creationOnly h (creationOnly_create request)
  | acceptNewStation => exact dialogsSound_of_creationOnly h creationOnly_acceptNewStation
  | _ => exact dialogsSound_of_flows h rfl

/-- One step keeps all dialogs sound: only the intents can move one. -/
theorem dialogsSound_step (op : Op) (h : d.DialogsSound) : (d.step now op).DialogsSound := by
  cases op with
  | connection isLive => exact dialogsSound_of_flows h (flows_setConnected isLive)
  | event e => exact dialogsSound_of_flows h (flows_apply e)
  | intent i => exact dialogsSound_perform i h

theorem dialogsSound_run (history : List (Moment × Op)) (h : d.DialogsSound) :
    (d.run history).DialogsSound := by
  induction history generalizing d with
  | nil => exact h
  | cons entry rest ih => exact ih (dialogsSound_step entry.2 h)

theorem dialogsSound_new (maxGain : Float) (lifetime : Span) :
    (new maxGain lifetime).DialogsSound := by
  intro dialog
  cases dialog <;> exact Flow.sound_idle _

/-- What is to be said of the dialogs of a deck. -/
structure DialogsComplete (d : Deck) : Prop where
  /-- Every dialog is at a stage. -/
  inRange : ∀ dialog, (d.flow dialog).position < dialog.stages.length
  /-- A dialog at its last stage has what it needs. -/
  ready : ∀ dialog, (d.flow dialog).isAt dialog .confirm = true → (d.flow dialog).Ready dialog
  /-- To confirm a dialog before its last stage fails and does nothing. -/
  early : ∀ now dialog, (d.flow dialog).isAt dialog .confirm = false →
    (d.confirm now dialog).deck = d ∧ (d.confirm now dialog).command = none ∧
      ∀ reached, (d.confirm now dialog).verdict.settle reached = false
  /-- To confirm a dialog at its last stage hands over the command that its fields ask for, and the
  link decides over success. The one exception is a station from what plays, while nothing does. -/
  answers : ∀ now dialog, (d.flow dialog).isAt dialog .confirm = true →
    Answers now d dialog (d.confirm now dialog)
  /-- Afterwards the dialog is idle. -/
  idle : ∀ now dialog, (d.flow dialog).isAt dialog .confirm = true →
    ((d.confirm now dialog).deck.flow dialog).isIdle = true

/-- **Dialogs are complete when they are confirmed.** In every deck that a history leads to, a
dialog at its last stage has all that its command needs, so confirming it asks for exactly that. -/
theorem dialogs_complete (maxGain : Float) (lifetime : Span) (history : List (Moment × Op)) :
    ((new maxGain lifetime).run history).DialogsComplete := by
  have hsound := dialogsSound_run history (dialogsSound_new maxGain lifetime)
  refine ⟨fun dialog => (hsound dialog).inRange, fun dialog hat => (hsound dialog).ready hat,
    fun now dialog hat => ?_, fun now dialog hat => answers_confirm hat ((hsound dialog).ready hat),
    fun now dialog hat => ?_⟩
  · -- before the last stage
    have hearly : ((new maxGain lifetime).run history).confirm now dialog =
        .settled false ((new maxGain lifetime).run history) := by
      rw [confirm, if_neg (by rw [hat]; decide)]
    rw [hearly]
    exact ⟨rfl, rfl, fun _ => rfl⟩
  · rw [flow_confirm hat]
    rfl

/-- A station is renamed: the new name is trimmed before the dialog gets to its last stage. -/
theorem dialogs_complete_rename :
    let d := (new 6 4000000000).run
      [(0, .intent (.chooseStation .rename "a")), (1, .intent (.setName " b "))]
    (d.flow .rename).isAt .rename .confirm = true ∧ (d.flow .rename).Ready .rename ∧
      (d.confirm 2 .rename).command = some (.renameStation "a" "b") ∧
      ((d.confirm 2 .rename).deck.flow .rename).isIdle = true := by
  intro d
  have hcomplete := dialogs_complete 6 4000000000
    [(0, .intent (.chooseStation .rename "a")), (1, .intent (.setName " b "))]
  have hat : (d.flow .rename).isAt .rename .confirm = true := by decide
  exact ⟨hat, hcomplete.ready .rename hat, rfl, hcomplete.idle 2 .rename hat⟩

end Tuner.Deck
