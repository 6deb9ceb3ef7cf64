import Tuner.Proofs.Deck.Dialogs

/-!
# Dialogs do not get into each other's way

Five dialogs share one deck, one search and one list of stations. What is done in four of them makes
no difference to the fifth: its flow, and what its own intents are answered, are as if the other
four had never been touched. `SameDialog` relates two decks on which a dialog is at the same point.
An intent for another dialog keeps to its own flow (`flow_perform_of_ne`), and everything else moves
two such decks alike (`SameDialog.step`), since a dialog reads nothing of the deck but its own flow,
the names of the stations and the song. `SameDialog.run` is the induction over two histories, of
which one lacks the intents for the other dialogs.
-/

namespace Tuner

/-- The dialog that an intent is addressed to. -/
def Intent.dialog? : Intent → Option Dialog
  | .cancel dialog => some dialog
  | .chooseSource _ => some .createStation
  | .chooseStation dialog _ => some dialog
  | .searchIn dialog _ => some dialog
  | .chooseItem dialog _ => some dialog
  | .setName _ => some .rename
  | .confirm dialog => some dialog
  | _ => none

namespace Deck

/-- Whether a dialog is at a stage for an intent. To cancel a dialog is possible at any stage. -/
def takes (i : Intent) (d : Deck) : Bool :=
  match i with
  | .chooseSource _ => (d.flow .createStation).isAt .createStation .selectSource
  | .chooseStation dialog _ => (d.flow dialog).isAt dialog .selectStation
  | .searchIn dialog _ => (d.flow dialog).isAt dialog .search
  | .chooseItem dialog _ =>
    (d.flow dialog).isAt dialog .search || (d.flow dialog).isAt dialog .reviewSeeds
  | .setName _ => (d.flow .rename).isAt .rename .editName
  | .confirm dialog => (d.flow dialog).isAt dialog .confirm
  | _ => true

/-- What an intent for a dialog is answered. -/
structure Reply where
  /-- Whether the dialog is at a stage for it. -/
  taken : Bool
  command : Option Command
  verdict : Verdict

/-- The answer to one thing that happens, if it is an intent for a dialog. -/
def reply? (dialog : Dialog) (now : Moment) (d : Deck) : Op → Option Reply
  | .intent i =>
    if i.dialog? = some dialog then
      some ⟨d.takes i, (d.perform now i).command, (d.perform now i).verdict⟩
    else none
  | .event _ => none
  | .connection _ => none

/-- The answers to the intents for a dialog in a history, in order. -/
def replies (dialog : Dialog) : Deck → List (Moment × Op) → List Reply
  | _, [] => []
  | d, (now, op) :: rest =>
    (d.reply? dialog now op).toList ++ replies dialog (d.step now op) rest

/-- Whether something that happens is an intent for another dialog. -/
def Op.isForOther (dialog : Dialog) : Op → Bool
  | .intent i => i.dialog?.any (· ≠ dialog)
  | .event _ => false
  | .connection _ => false

/-- A history with the intents for all other dialogs left out. -/
def alone (dialog : Dialog) (history : List (Moment × Op)) : List (Moment × Op) :=
  history.filter (!·.2.isForOther dialog)

variable {now : Moment} {d d' : Deck} {dialog other : Dialog} {i : Intent}

/-- What is not taken is refused, and then nothing changes. -/
theorem perform_of_not_takes (h : d.takes i = false) : d.perform now i = .settled false d := by
  cases i with
  | chooseSource kind => exact if_neg (by simpa [takes] using h)
  | chooseStation dialog id => exact if_neg (by simpa [takes] using h)
  | searchIn dialog text => exact if_neg (by simpa [takes] using h)
  | chooseItem dialog id => exact if_neg (by simpa [takes] using h)
  | setName name => exact if_neg (by simp_all [takes])
  | confirm dialog => exact if_neg (by simpa [takes] using h)
  | _ => cases h

/-! ## Intents for another dialog -/

/-- A flow that is put into a deck is the flow of its dialog and of no other. -/
theorem flow_setFlow (other : Dialog) (f : Flow) :
    (d.setFlow other f).flow dialog = if other = dialog then f else d.flow dialog :=
  Flows.get_set d.flows other dialog f

/-- Whatever a cancelled dialog clears besides, its flow is the only one that changes. -/
theorem flow_cancel (other : Dialog) :
    (d.cancel other).flow dialog = if other = dialog then {} else d.flow dialog := by
  rw [flow, flows_cancel, Flows.get_set, flow]

theorem flow_setFlow_of_ne (h : other ≠ dialog) (f : Flow) :
    (d.setFlow other f).flow dialog = d.flow dialog := by
  rw [flow_setFlow, if_neg h]

theorem flow_cancel_of_ne (h : other ≠ dialog) :
    (d.cancel other).flow dialog = d.flow dialog := by
  rw [flow_cancel, if_neg h]

theorem flow_of_flows (h : d'.flows = d.flows) (dialog : Dialog) : d'.flow dialog = d.flow dialog :=
  congrArg (·.get dialog) h

theorem CreationOnly.flow_eq (h : d.CreationOnly d') : d'.flow dialog = d.flow dialog := by
  rw [h]
  rfl

/-- An intent keeps to the flow of its own dialog. -/
theorem flow_perform_of_ne (h : i.dialog? ≠ some dialog) :
    (d.perform now i).deck.flow dialog = d.flow dialog := by
  have hne : ∀ {other}, i.dialog? = some other → other ≠ dialog :=
    fun hother heq => h (heq ▸ hother)
  -- each gesture puts a flow into the deck for its own dialog, and that is not the one in question
  cases i with
  | cancel other => exact flow_cancel_of_ne (hne rfl)
  | chooseSource kind =>
    show (d.chooseSource kind).deck.flow dialog = _
    unfold chooseSource
    dsimp only
    split
    · cases kind <;> exact flow_setFlow_of_ne (hne rfl) _
    · rfl
  | chooseStation other id =>
    show (d.chooseStation other id).deck.flow dialog = _
    unfold chooseStation
    dsimp only
    split
    · split <;> exact flow_setFlow_of_ne (hne rfl) _
    · rfl
  | searchIn other text =>
    show (d.searchIn other text).deck.flow dialog = _
    unfold searchIn
    dsimp only
    split
    · split <;> exact flow_setFlow_of_ne (hne rfl) _
    · rfl
  | chooseItem other id =>
    show (d.chooseItem other id).deck.flow dialog = _
    unfold chooseItem
    dsimp only
    split
    · exact flow_setFlow_of_ne (hne rfl) _
    · rfl
  | setName name =>
    show (d.setName name).deck.flow dialog = _
    unfold setName
    dsimp only
    split
    · exact flow_setFlow_of_ne (hne rfl) _
    · rfl
  | confirm other =>
    show (d.confirm now other).deck.flow dialog = _
    unfold confirm
    split
    · exact (flow_cancel_of_ne (hne rfl)).trans (creationOnly_submit other).flow_eq
    · rfl
  | create request => exact (creationOnly_create request).flow_eq
  | acceptNewStation => exact creationOnly_acceptNewStation.flow_eq
  | _ => rfl

/-- An intent for a dialog shows nothing ahead of a report. -/
theorem anticipate_of_dialog (h : i.dialog? = some dialog) : d.anticipate now i = d := by
  cases i with
  | togglePlayback | love | setGain percent | setQuickMix ids => cases h
  | _ => rfl

/-! ## Two decks at one point of a dialog -/

/-- Two decks on which a dialog is at the same point, with the same song and the same stations. -/
structure SameDialog (dialog : Dialog) (d d' : Deck) : Prop where
  flow : d.flow dialog = d'.flow dialog
  song : d.song = d'.song
  stations : d.stations = d'.stations

/-- Two outcomes that are the same for a dialog and for the player. -/
structure Alike (dialog : Dialog) (o o' : Outcome) : Prop where
  flow : o.deck.flow dialog = o'.deck.flow dialog
  command : o.command = o'.command
  verdict : o.verdict = o'.verdict

/-- A flow that is put into two decks is the same in both. -/
theorem flow_setFlow_congr (d d' : Deck) (dialog : Dialog) (f : Flow) :
    (d.setFlow dialog f).flow dialog = (d'.setFlow dialog f).flow dialog := by
  rw [flow_setFlow, flow_setFlow, if_pos rfl, if_pos rfl]

theorem flow_cancel_congr (d d' : Deck) (dialog : Dialog) :
    (d.cancel dialog).flow dialog = (d'.cancel dialog).flow dialog := by
  rw [flow_cancel, flow_cancel, if_pos rfl, if_pos rfl]

namespace SameDialog

theorem refl (dialog : Dialog) (d : Deck) : SameDialog dialog d d :=
  ⟨rfl, rfl, rfl⟩

theorem trans {d₁ d₂ d₃ : Deck} (h : SameDialog dialog d₁ d₂) (h' : SameDialog dialog d₂ d₃) :
    SameDialog dialog d₁ d₃ :=
  ⟨h.flow.trans h'.flow, h.song.trans h'.song, h.stations.trans h'.stations⟩

/-! ### Its own intents -/

/-- Whether a source is taken, and where the dialog goes from there, is a matter of its own flow. -/
theorem alike_chooseSource (h : SameDialog .createStation d d') (kind : CreationKind) :
    Alike .createStation (d.chooseSource kind) (d'.chooseSource kind) := by
  unfold chooseSource
  rw [h.flow]
  dsimp only
  split
  · have hset := flow_setFlow_congr d d' .createStation
    cases kind <;> exact ⟨hset _, rfl, rfl⟩
  · exact ⟨h.flow, rfl, rfl⟩

/-- The text that a dialog begins with is a name of a station, or what was there. -/
theorem initialText_eq (h : SameDialog dialog d d') (id : String) :
    d.initialText dialog id = d'.initialText dialog id := by
  have hstation : d.station? id = d'.station? id :=
    congrArg (fun stations => stations.find? fun s : Station => s.id == id) h.stations
  unfold initialText
  rw [hstation, h.flow]

/-- A station is chosen by its identifier. That the list has it is asked for the text alone. -/
theorem alike_chooseStation (h : SameDialog dialog d d') (id : String) :
    Alike dialog (d.chooseStation dialog id) (d'.chooseStation dialog id) := by
  unfold chooseStation
  rw [h.flow, h.initialText_eq]
  dsimp only
  split
  · have hset := flow_setFlow_congr d d' dialog
    split <;> exact ⟨hset _, rfl, rfl⟩
  · exact ⟨h.flow, rfl, rfl⟩

/-- A search goes to the player, and what is awaited or found of it makes no difference to the
dialog. -/
theorem alike_searchIn (h : SameDialog dialog d d') (text : String) :
    Alike dialog (d.searchIn dialog text) (d'.searchIn dialog text) := by
  unfold searchIn
  rw [h.flow]
  dsimp only
  split
  · have hset := flow_setFlow_congr d d' dialog
    split <;> exact ⟨hset _, rfl, rfl⟩
  · exact ⟨h.flow, rfl, rfl⟩

/-- An item is picked by its identifier, without a look at what was found. -/
theorem alike_chooseItem (h : SameDialog dialog d d') (id : String) :
    Alike dialog (d.chooseItem dialog id) (d'.chooseItem dialog id) := by
  unfold chooseItem
  rw [h.flow]
  dsimp only
  split
  · exact ⟨flow_setFlow_congr d d' _ _, rfl, rfl⟩
  · exact ⟨h.flow, rfl, rfl⟩

/-- A name is trimmed and taken wherever the dialog is at the stage for it. -/
theorem alike_setName (h : SameDialog .rename d d') (name : String) :
    Alike .rename (d.setName name) (d'.setName name) := by
  unfold setName
  rw [h.flow]
  dsimp only
  split
  · exact ⟨flow_setFlow_congr d d' _ _, rfl, rfl⟩
  · exact ⟨h.flow, rfl, rfl⟩

/-- The track is that of the song, which is the same on both decks. -/
theorem alike_createFromTrack (h : SameDialog dialog d d') (kind : CreationKind)
    (source : String → StationSource) :
    Alike dialog (d.createFromTrack now kind source) (d'.createFromTrack now kind source) := by
  unfold createFromTrack
  rw [h.song]
  split <;> exact ⟨h.flow, rfl, rfl⟩

/-- A request names what it needs, or needs the track. -/
theorem alike_create (h : SameDialog dialog d d') (request : CreationRequest) :
    Alike dialog (d.create now request) (d'.create now request) := by
  cases request with
  | fromSong => exact h.alike_createFromTrack .song .song
  | fromArtist => exact h.alike_createFromTrack .artist .artist
  | fromGenre id => exact ⟨h.flow, rfl, rfl⟩
  | fromSearch id => exact ⟨h.flow, rfl, rfl⟩

/-- What a dialog submits is in its own fields. -/
theorem alike_submit (h : SameDialog dialog d d') :
    Alike dialog (d.submit now dialog) (d'.submit now dialog) := by
  unfold submit
  rw [h.flow]
  dsimp only
  cases dialog with
  | createStation =>
    dsimp only
    split
    · exact h.alike_create _
    · exact ⟨h.flow, rfl, rfl⟩
  | _ =>
    dsimp only
    split <;> exact ⟨h.flow, rfl, rfl⟩

/-- To be confirmed, a dialog submits what it has and returns to its start on both decks. -/
theorem alike_confirm (h : SameDialog dialog d d') :
    Alike dialog (d.confirm now dialog) (d'.confirm now dialog) := by
  have hsubmit : Alike dialog (d.submit now dialog) (d'.submit now dialog) := h.alike_submit
  unfold confirm
  rw [h.flow]
  split
  · exact ⟨flow_cancel_congr _ _ dialog, hsubmit.command, hsubmit.verdict⟩
  · exact ⟨h.flow, rfl, rfl⟩

/-- **What comes of an intent for a dialog depends on the dialog alone**, and on the song and the
stations. -/
theorem alike_perform (h : SameDialog dialog d d') (hi : i.dialog? = some dialog) :
    Alike dialog (d.perform now i) (d'.perform now i) := by
  cases i with
  | cancel other =>
    obtain rfl := Option.some.inj hi
    exact ⟨flow_cancel_congr d d' other, rfl, rfl⟩
  | chooseSource kind =>
    obtain rfl := Option.some.inj hi
    exact h.alike_chooseSource kind
  | chooseStation other id =>
    obtain rfl := Option.some.inj hi
    exact h.alike_chooseStation id
  | searchIn other text =>
    obtain rfl := Option.some.inj hi
    exact h.alike_searchIn text
  | chooseItem other id =>
    obtain rfl := Option.some.inj hi
    exact h.alike_chooseItem id
  | setName name =>
    obtain rfl := Option.some.inj hi
    exact h.alike_setName name
  | confirm other =>
    obtain rfl := Option.some.inj hi
    exact h.alike_confirm
  | _ => cases hi

/-- Two decks at one point of a dialog take the same intents for it. -/
theorem takes_eq (h : SameDialog dialog d d') (hi : i.dialog? = some dialog) :
    d.takes i = d'.takes i := by
  cases i with
  | cancel other => rfl
  | chooseSource kind | chooseStation other id | searchIn other text | chooseItem other id
  | setName name | confirm other =>
    obtain rfl := Option.some.inj hi
    rw [takes, takes, h.flow]
  | _ => cases hi

/-! ### Everything that happens -/

/-- What is only asked makes no difference between two decks at one point of a dialog, as long as it
makes none to the dialog. -/
theorem congr_asking {e e' : Deck} (h : SameDialog dialog d d') (he : d.AskingOnly e)
    (he' : d'.AskingOnly e') (hflow : e.flow dialog = e'.flow dialog) : SameDialog dialog e e' where
  flow := hflow
  song := by rw [he.song, he'.song, h.song]
  stations := by rw [he.stations, he'.stations, h.stations]

/-- What is shown ahead of a report is shown on both decks, also of the song and of the stations. -/
theorem anticipate (h : SameDialog dialog d d') (i : Intent) :
    SameDialog dialog (d.anticipate now i) (d'.anticipate now i) := by
  cases i with
  | love => exact { h with song := by rw [Deck.anticipate, Deck.anticipate, h.song] }
  | setQuickMix ids =>
    exact { h with stations := congrArg (mixing ids) h.stations }
  | togglePlayback => exact ⟨h.flow, h.song, h.stations⟩
  | setGain percent => exact ⟨h.flow, h.song, h.stations⟩
  | _ => exact h

/-- Intents for the dialog, or for no dialog, move both decks alike. Those for the others are the
subject of `step_other`. -/
theorem perform (h : SameDialog dialog d d') (hi : i.dialog?.any (· ≠ dialog) = false) :
    SameDialog dialog (d.perform now i).deck (d'.perform now i).deck := by
  -- what the intent shows ahead is alike, and of what it asks only the flow of the dialog matters
  refine (h.anticipate i).congr_asking (perform_anticipates now i d)
    (perform_anticipates now i d') ?_
  cases hdialog : i.dialog? with
  | none =>
    have hne : i.dialog? ≠ some dialog := by simp [hdialog]
    rw [flow_perform_of_ne hne, flow_perform_of_ne hne, h.flow]
  | some other =>
    obtain rfl : other = dialog := by simpa [hdialog] using hi
    exact (h.alike_perform hdialog).flow

/-- Events move both decks alike: they touch no flow, and they bring the same song and the same
stations to both. -/
theorem apply (h : SameDialog dialog d d') (e : Event) :
    SameDialog dialog (d.apply now e) (d'.apply now e) := by
  have hflow : (d.apply now e).flow dialog = (d'.apply now e).flow dialog := by
    rw [flow_of_flows (flows_apply e), flow_of_flows (flows_apply e), h.flow]
  cases e with
  | start s => exact ⟨hflow, rfl, h.stations⟩
  | process s =>
    refine ⟨hflow, ?_, ?_⟩
    · show (d.onSnapshotSong s).song = (d'.onSnapshotSong s).song
      unfold onSnapshotSong
      split <;> rfl
    · show (d.onSnapshotSong s).stations = (d'.onSnapshotSong s).stations
      unfold onSnapshotSong
      split <;> exact h.stations
  | stations list =>
    have hlist : SameDialog dialog { d with stations := list } { d' with stations := list } :=
      { h with stations := rfl }
    exact hlist.congr_asking (askingOnly_onStations list) (askingOnly_onStations list) hflow
  | stationInfo info =>
    exact h.congr_asking (askingOnly_onStationInfo info) (askingOnly_onStationInfo info) hflow
  | _ => exact ⟨hflow, h.song, h.stations⟩

/-- **What is not addressed to another dialog moves both decks alike.** -/
theorem step (h : SameDialog dialog d d') {op : Op} (hop : op.isForOther dialog = false) :
    SameDialog dialog (d.step now op) (d'.step now op) := by
  cases op with
  | intent i => exact h.perform hop
  | event e => exact h.apply e
  | connection isLive =>
    have hlive : SameDialog dialog { d with connected := isLive } { d' with connected := isLive } :=
      ⟨h.flow, h.song, h.stations⟩
    have hflow : (d.setConnected now isLive).flow dialog =
        (d'.setConnected now isLive).flow dialog := by
      rw [flow_of_flows (flows_setConnected isLive), flow_of_flows (flows_setConnected isLive),
        h.flow]
    exact hlive.congr_asking (askingOnly_setConnected isLive) (askingOnly_setConnected isLive) hflow

/-- An intent for another dialog keeps a deck at the point where it is. -/
theorem step_other {op : Op} (hop : op.isForOther dialog = true) :
    SameDialog dialog (d.step now op) d := by
  cases op with
  | intent i =>
    obtain ⟨other, hother, hne⟩ := (Option.any_eq_true _ _).mp hop
    have hask := perform_anticipates now i d
    rw [anticipate_of_dialog hother] at hask
    refine ⟨flow_perform_of_ne ?_, hask.song, hask.stations⟩
    rw [hother]
    simpa using hne
  | event e => cases hop
  | connection isLive => cases hop

/-- So the dialog gives the same answer on both decks. -/
theorem reply?_eq (h : SameDialog dialog d d') (now : Moment) (op : Op) :
    d.reply? dialog now op = d'.reply? dialog now op := by
  cases op with
  | intent i =>
    rw [reply?, reply?]
    by_cases hi : i.dialog? = some dialog
    · have halike : Alike dialog (d.perform now i) (d'.perform now i) := h.alike_perform hi
      rw [if_pos hi, if_pos hi, h.takes_eq hi, halike.command, halike.verdict]
    · rw [if_neg hi, if_neg hi]
  | event e => rfl
  | connection isLive => rfl

theorem reply?_other {op : Op} (hop : op.isForOther dialog = true) :
    d.reply? dialog now op = none := by
  cases op with
  | intent i =>
    obtain ⟨other, hother, hne⟩ := (Option.any_eq_true _ _).mp hop
    rw [reply?, if_neg]
    rw [hother]
    simpa using hne
  | event e => rfl
  | connection isLive => rfl

/-- **A history and the one without the intents for other dialogs** lead to decks on which a dialog
is at the same point, and the intents for it are answered alike. -/
theorem run (h : SameDialog dialog d d') (history : List (Moment × Op)) :
    SameDialog dialog (d.run history) (d'.run (alone dialog history)) ∧
      d.replies dialog history = d'.replies dialog (alone dialog history) := by
  induction history generalizing d d' with
  | nil => exact ⟨h, rfl⟩
  | cons entry rest ih =>
    obtain ⟨now, op⟩ := entry
    rw [replies]
    cases hop : op.isForOther dialog with
    | true =>
      -- Only the longer history takes a step.
      have halone : alone dialog ((now, op) :: rest) = alone dialog rest :=
        List.filter_cons_of_neg (by simp [hop])
      rw [halone, reply?_other hop, Option.toList_none, List.nil_append]
      exact ih ((step_other hop).trans h)
    -- Both histories take the step.
    | false =>
      have halone : alone dialog ((now, op) :: rest) = (now, op) :: alone dialog rest :=
        List.filter_cons_of_pos (by simp [hop])
      have hstep : SameDialog dialog (d.step now op) (d'.step now op) := h.step hop
      obtain ⟨hrun, hreplies⟩ := ih hstep
      rw [halone, replies, h.reply?_eq, hreplies]
      exact ⟨hrun, rfl⟩

end SameDialog

/-- **Dialogs do not get into each other's way.** Leave out of any history the intents for all
dialogs but one. That dialog is then where it was before, and each of its own intents is answered as
before: whether it is taken at the stage that the dialog is at, which command it hands over and how
its success is decided. An intent that is not taken is refused and changes nothing. To cancel the
dialog returns it to its first stage, idle, and leaves the other four where they are. -/
theorem dialogs_separate (d : Deck) (dialog : Dialog) (history : List (Moment × Op)) :
    let after := d.run history
    after.flow dialog = (d.run (alone dialog history)).flow dialog ∧
      d.replies dialog history = d.replies dialog (alone dialog history) ∧
      (∀ now i, after.takes i = true ∨ after.perform now i = .settled false after) ∧
      ((after.cancel dialog).flow dialog).isIdle = true ∧
      ((after.cancel dialog).flow dialog).stage? dialog = dialog.stages.head? ∧
      ∀ other, (after.cancel dialog).flow other =
        if dialog = other then {} else after.flow other := by
  intro after
  obtain ⟨hsame, hreplies⟩ := (SameDialog.refl dialog d).run history
  have hidle : (after.cancel dialog).flow dialog = {} := by
    rw [flow_cancel, if_pos rfl]
  refine ⟨hsame.flow, hreplies, fun now i => ?_, ?_, ?_, fun other => flow_cancel dialog⟩
  · cases htakes : after.takes i with
    | true => exact .inl rfl
    | false => exact .inr (perform_of_not_takes htakes)
  · rw [hidle]
    rfl
  · rw [hidle]
    cases dialog <;> rfl

end Deck

end Tuner
