import Tuner.Proofs.Deck.Dialogs

/-!
# Whose seeds are shown

The seeds of a station are asked for when the station is chosen in the dialog on seeds, and the
answer comes in whenever the player likes: after the dialog was cancelled, or while another station
is under review. Three things keep a late answer from being shown for the wrong station. To choose a
station clears what was shown before, to leave the dialog clears it too, and an answer is held
against the station under review when it comes in.

`Reviewing` says that what is shown would be let in now. All that the user can do leaves both the
seeds and the station as they are, or clears the seeds (`ReviewTurn`), so this goes on being true.
-/

namespace Tuner

/-- A flow takes its station along. -/
theorem Flow.station_advance (dialog : Dialog) (f : Flow) :
    (f.advance dialog).station = f.station := by
  unfold Flow.advance
  split <;> rfl

namespace Deck

variable {now : Moment} {d d' d'' : Deck} {info : StationInfo}

/-- The seeds that are shown are not those of another station than the one under review. -/
def Reviewing (d : Deck) : Prop :=
  ∀ info, d.stationInfo = some info → d.isForeign info = false

/-- Seeds are let in unless they name another station than the one under review. Where either names
none they are let in as well. -/
theorem isForeign_eq_false_iff : d.isForeign info = false ↔
    ∀ wanted got, (d.flow .seeds).station = some wanted → info.stationId = some got →
      got = wanted := by
  unfold isForeign
  rw [show d.flows.seeds.station = (d.flow .seeds).station from rfl]
  cases (d.flow .seeds).station with
  | none => simp
  | some wanted =>
    cases info.stationId with
    | none => simp
    | some got => simp [@eq_comm _ got]

/-- The check looks at the station under review, and at nothing else of the deck. -/
theorem isForeign_congr (h : (d'.flow .seeds).station = (d.flow .seeds).station) :
    d'.isForeign info = d.isForeign info := by
  unfold isForeign
  rw [show d'.flows.seeds.station = d.flows.seeds.station from h]

/-! ## What the user can do -/

/-- What can become of the seeds that are shown, while none come in. -/
inductive ReviewTurn (d d' : Deck) : Prop where
  | stays (info : d'.stationInfo = d.stationInfo)
      (station : (d'.flow .seeds).station = (d.flow .seeds).station)
  | clears (info : d'.stationInfo = none)

/-- Two turns are one: what is cleared stays cleared unless new seeds come in. -/
theorem ReviewTurn.trans (h : ReviewTurn d d') (h' : ReviewTurn d' d'') : ReviewTurn d d'' := by
  cases h' with
  | clears info' => exact .clears info'
  | stays info' station' =>
    cases h with
    | clears info => exact .clears (info'.trans info)
    | stays info station => exact .stays (info'.trans info) (station'.trans station)

theorem CreationOnly.reviewTurn (h : d.CreationOnly d') : ReviewTurn d d' := by
  rw [h]
  exact .stays rfl rfl

/-- The dialog on seeds takes the seeds that are shown with it, and the others have none. -/
theorem reviewTurn_cancel (dialog : Dialog) : ReviewTurn d (d.cancel dialog) := by
  cases dialog with
  | seeds => exact .clears rfl
  | createStation | addMusic | rename | delete => exact .stays rfl rfl

theorem reviewTurn_chooseSource (kind : CreationKind) :
    ReviewTurn d (d.chooseSource kind).deck := by
  unfold chooseSource
  dsimp only
  split
  · cases kind <;> exact .stays rfl rfl
  · exact .stays rfl rfl

/-- A station that is chosen for review begins with no seeds shown, so that none of the station
before can stay. -/
theorem reviewTurn_chooseStation (dialog : Dialog) (id : String) :
    ReviewTurn d (d.chooseStation dialog id).deck := by
  unfold chooseStation
  dsimp only
  split
  · cases dialog with
    | seeds => exact .clears rfl
    | createStation | addMusic | rename | delete => exact .stays rfl rfl
  · exact .stays rfl rfl

/-- A search puts a text into a flow and keeps its station. -/
theorem reviewTurn_searchIn (dialog : Dialog) (text : String) :
    ReviewTurn d (d.searchIn dialog text).deck := by
  unfold searchIn
  dsimp only
  split
  · split <;> cases dialog <;> exact .stays rfl rfl
  · exact .stays rfl rfl

/-- A seed is picked for the station that is under review already. -/
theorem reviewTurn_chooseItem (dialog : Dialog) (id : String) :
    ReviewTurn d (d.chooseItem dialog id).deck := by
  unfold chooseItem
  dsimp only
  split
  · cases dialog with
    | seeds => exact .stays rfl (Flow.station_advance .seeds _)
    | createStation | addMusic | rename | delete => exact .stays rfl rfl
  · exact .stays rfl rfl

theorem reviewTurn_setName (name : String) : ReviewTurn d (d.setName name).deck := by
  unfold setName
  dsimp only
  split <;> exact .stays rfl rfl

/-- A confirmed dialog is cancelled, and with it the seeds are cleared. -/
theorem reviewTurn_confirm (dialog : Dialog) : ReviewTurn d (d.confirm now dialog).deck := by
  unfold confirm
  split
  · exact (creationOnly_submit dialog).reviewTurn.trans (reviewTurn_cancel dialog)
  · exact .stays rfl rfl

/-- Every intent leaves seeds and station alone, or clears the seeds. -/
theorem reviewTurn_perform (now : Moment) (i : Intent) (d : Deck) :
    ReviewTurn d (d.perform now i).deck := by
  cases i with
  | cancel dialog => exact reviewTurn_cancel dialog
  | chooseSource kind => exact reviewTurn_chooseSource kind
  | chooseStation dialog id => exact reviewTurn_chooseStation dialog id
  | searchIn dialog text => exact reviewTurn_searchIn dialog text
  | chooseItem dialog id => exact reviewTurn_chooseItem dialog id
  | setName name => exact reviewTurn_setName name
  | confirm dialog => exact reviewTurn_confirm dialog
  | create request => exact (creationOnly_create request).reviewTurn
  | acceptNewStation => exact creationOnly_acceptNewStation.reviewTurn
  | _ => exact .stays rfl rfl

/-! ## Histories -/

/-- Such a turn shows no seeds of another station. -/
theorem Reviewing.turn (h : d.Reviewing) (hturn : ReviewTurn d d') : d'.Reviewing := by
  intro info hinfo
  cases hturn with
  | stays hsame hstation =>
    -- the same seeds and the same station, so the same check
    rw [isForeign_congr hstation]
    exact h info (hsame.symm.trans hinfo)
  | clears hnone =>
    rw [hnone] at hinfo
    cases hinfo

/-- An answer is let in only if it belongs to the station under review. -/
theorem Reviewing.onStationInfo (h : d.Reviewing) (answer : StationInfo) :
    (d.onStationInfo answer).Reviewing := by
  unfold Deck.onStationInfo
  split
  · exact h
  · rename_i hown
    intro info hinfo
    -- the answer is shown now, and it has just passed the check
    obtain rfl := Option.some.inj hinfo
    exact Bool.eq_false_iff.mpr hown

theorem reviewTurn_setConnected (isLive : Bool) : ReviewTurn d (d.setConnected now isLive) := by
  unfold setConnected
  dsimp only
  split <;> exact .stays rfl rfl

/-- Of the events an answer about seeds is held against the station under review, and the others
show none. -/
theorem Reviewing.apply (h : d.Reviewing) (now : Moment) (e : Event) :
    (d.apply now e).Reviewing := by
  cases e with
  | stationInfo info => exact h.onStationInfo info
  | stations list =>
    refine h.turn (show ReviewTurn d (d.onStations now list) from ?_)
    unfold onStations
    dsimp only
    split <;> exact .stays rfl rfl
  | process s =>
    refine h.turn (show ReviewTurn d (d.onSnapshot s) from ?_)
    unfold onSnapshot onSnapshotSong
    split <;> exact .stays rfl rfl
  | _ => exact h.turn (.stays rfl rfl)

/-- Every step keeps the seeds that are shown to the station under review. -/
theorem Reviewing.step (h : d.Reviewing) (now : Moment) (op : Op) : (d.step now op).Reviewing := by
  cases op with
  | connection isLive => exact h.turn (reviewTurn_setConnected isLive)
  | event e => exact h.apply now e
  | intent i => exact h.turn (reviewTurn_perform now i d)

theorem Reviewing.run (h : d.Reviewing) (history : List (Moment × Op)) :
    (d.run history).Reviewing := by
  induction history generalizing d with
  | nil => exact h
  | cons entry rest ih => exact ih (h.step entry.1 entry.2)

theorem reviewing_new (maxGain : Float) (lifetime : Span) : (new maxGain lifetime).Reviewing :=
  fun _ h => by cases h

/-- **The seeds that are shown belong to the station under review**, whatever was reviewed before
and however late the answers come in. -/
theorem seeds_of_reviewed (maxGain : Float) (lifetime : Span) (history : List (Moment × Op))
    {wanted got : String} {info : StationInfo}
    (hwanted : (((new maxGain lifetime).run history).flow .seeds).station = some wanted)
    (hinfo : ((new maxGain lifetime).run history).stationInfo = some info)
    (hgot : info.stationId = some got) : got = wanted := by
  have hreviewing := (reviewing_new maxGain lifetime).run history
  exact isForeign_eq_false_iff.mp (hreviewing info hinfo) wanted got hwanted hgot

/-- A review is given up before its answer comes in. The answer is shown while no station is under
review, and no longer; when it comes in once more, another station is, and it is not shown. -/
theorem seeds_of_reviewed_late :
    let d := (new 6 4000000000).run [(0, .intent (.chooseStation .seeds "a")),
      (1, .intent (.cancel .seeds)), (2, .event (.stationInfo { stationId := some "a" })),
      (3, .intent (.chooseStation .seeds "b")),
      (4, .event (.stationInfo { stationId := some "b", seeds := [{ id := "s" }] })),
      (5, .event (.stationInfo { stationId := some "a" }))]
    ∃ wanted got info, (d.flow .seeds).station = some wanted ∧ d.stationInfo = some info ∧
      info.stationId = some got ∧ got = wanted := by
  intro d
  have hwanted : (d.flow .seeds).station = some "b" := by decide
  have hinfo : d.stationInfo = some { stationId := some "b", seeds := [{ id := "s" }] } := by
    decide
  exact ⟨"b", "b", _, hwanted, hinfo, rfl, seeds_of_reviewed 6 4000000000 _ hwanted hinfo rfl⟩

end Deck

end Tuner
