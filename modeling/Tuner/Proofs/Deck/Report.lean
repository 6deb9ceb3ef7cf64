import Tuner.Deck.History
import Tuner.Proofs.Deck.Frame

/-!
# What the player has reported

Intents change the deck at once, in the same record that events are merged into. What the player has
reported must not suffer from that: a deck on which all intents of a history are left out has to
know the same of the player. `SameReport` says of two decks that they do. A few fields hold a report
and a change of the user side by side, and there only the report counts.

Of the two conditions that make up the law one is about intents, `sameReport_intent`: what an intent
changes is no report. The other, `SameReport.heed`, is about everything else: what becomes of the
reports depends on nothing but the reports. `run_sameReport` combines them over a history.
-/

namespace Tuner

/-- A track without its rating, which is the user's own. -/
def Song.unrated (s : Song) : Song :=
  { s with rating := 0 }

/-- A station without the part of an ordinary station in the mix, which the user chooses. -/
def Station.unmixed (s : Station) : Station :=
  { s with isQuickMixed := s.isQuickMix && s.isQuickMixed }

namespace Deck

/-- Two decks that know the same of the player. -/
structure SameReport (d d' : Deck) : Prop where
  connected : d.connected = d'.connected
  song : d.song.unrated = d'.song.unrated
  playing : d.playing.lastConfirmed = d'.playing.lastConfirmed
  elapsed : d.elapsed = d'.elapsed
  total : d.total = d'.total
  maxGain : d.maxGain = d'.maxGain
  stationId : d.stationId = d'.stationId
  stationName : d.stationName = d'.stationName
  genres : d.genres = d'.genres
  stations : d.stations.map (·.unmixed) = d'.stations.map (·.unmixed)

/-- Whether something that happens is an intent of the user. -/
def Op.isIntent : Op → Bool
  | .intent _ => true
  | _ => false

/-- A history with all intents left out. -/
def reports (history : List (Moment × Op)) : List (Moment × Op) :=
  history.filter (!·.2.isIntent)

variable {now : Moment} {d d' : Deck}

namespace SameReport

theorem refl (d : Deck) : SameReport d d :=
  ⟨rfl, rfl, rfl, rfl, rfl, rfl, rfl, rfl, rfl, rfl⟩

theorem symm (h : SameReport d d') : SameReport d' d :=
  ⟨h.connected.symm, h.song.symm, h.playing.symm, h.elapsed.symm, h.total.symm, h.maxGain.symm,
    h.stationId.symm, h.stationName.symm, h.genres.symm, h.stations.symm⟩

theorem trans {d₁ d₂ d₃ : Deck} (h : SameReport d₁ d₂) (h' : SameReport d₂ d₃) :
    SameReport d₁ d₃ :=
  ⟨h.connected.trans h'.connected, h.song.trans h'.song, h.playing.trans h'.playing,
    h.elapsed.trans h'.elapsed, h.total.trans h'.total, h.maxGain.trans h'.maxGain,
    h.stationId.trans h'.stationId, h.stationName.trans h'.stationName, h.genres.trans h'.genres,
    h.stations.trans h'.stations⟩

end SameReport

theorem AskingOnly.sameReport (h : d.AskingOnly d') : SameReport d d' := by
  constructor <;> rw [h]

/-! ## Intents -/

/-- To put other stations into the mix changes nothing else of them. -/
theorem map_unmixed_mixing (ids : List String) (stations : List Station) :
    (mixing ids stations).map (·.unmixed) = stations.map (·.unmixed) := by
  rw [mixing, List.map_map]
  refine List.map_congr_left fun s _ => ?_
  cases hmix : s.isQuickMix <;> simp [Station.unmixed, hmix]

/-- Of the four intents that show a change ahead, each touches one of the fields that are the user's
own: the shown value, the rating, the gain, the mix. -/
theorem sameReport_anticipate (i : Intent) : SameReport d (d.anticipate now i) := by
  have hsame := SameReport.refl d
  cases i with
  | togglePlayback =>
    exact { hsame with playing := (Speculative.lastConfirmed_speculate now _ d.playing).symm }
  | love => exact { hsame with song := rfl }
  | setGain percent => exact { hsame with }
  | setQuickMix ids => exact { hsame with stations := (map_unmixed_mixing ids d.stations).symm }
  | _ => exact hsame

/-- **An intent changes nothing that the player has reported.** -/
theorem sameReport_intent (i : Intent) : SameReport d (d.step now (.intent i)) :=
  (sameReport_anticipate i).trans (perform_anticipates now i d).sameReport

/-! ## Everything else -/

namespace SameReport

/-- What is only asked makes no difference between two decks. -/
theorem congr_asking {e e' : Deck} (h : SameReport d d') (he : d.AskingOnly e)
    (he' : d'.AskingOnly e') : SameReport e e' :=
  (he.sameReport.symm.trans h).trans he'.sameReport

/-- Stations that a report names are taken over alike, and those it leaves out were alike before. -/
theorem tune (h : SameReport d d') (id name : Option String) :
    SameReport (d.tune id name) (d'.tune id name) :=
  { h with
    stationId := congrArg id.or h.stationId
    stationName := congrArg name.or h.stationName }

/-- A start replaces the song, and with it the rating. -/
theorem onStart (h : SameReport d d') (s : TrackStart) :
    SameReport (d.onStart s) (d'.onStart s) := by
  refine tune ?_ s.stationId s.station
  exact { h with song := rfl, playing := rfl, elapsed := rfl, total := rfl }

/-- A snapshot says whether something plays in any case, so the value before it does not matter. -/
theorem onSnapshot (h : SameReport d d') (s : Snapshot) :
    SameReport (d.onSnapshot s) (d'.onSnapshot s) := by
  have hsong : SameReport (d.onSnapshotSong s) (d'.onSnapshotSong s) := by
    unfold onSnapshotSong
    cases s.song with
    | some song => exact { h with song := rfl, playing := rfl, elapsed := rfl, total := rfl }
    | none => exact { h with song := rfl, playing := rfl, elapsed := rfl, total := rfl }
  have htuned := hsong.tune s.stationId s.station
  exact { htuned with maxGain := congrArg s.maxGain.getD htuned.maxGain }

/-- Every event is taken over alike by two decks that know the same of the player. -/
theorem apply (h : SameReport d d') (e : Event) :
    SameReport (d.apply now e) (d'.apply now e) := by
  cases e with
  | start s => exact h.onStart s
  | stop => exact { h with playing := rfl, elapsed := rfl, total := rfl }
  | progress p => exact { h with elapsed := rfl, total := rfl }
  | process s => exact h.onSnapshot s
  | stations list =>
    have hlist : SameReport { d with stations := list } { d' with stations := list } :=
      { h with stations := rfl }
    exact hlist.congr_asking (askingOnly_onStations list) (askingOnly_onStations list)
  | stationInfo info =>
    exact h.congr_asking (askingOnly_onStationInfo info) (askingOnly_onStationInfo info)
  | genres list => exact { h with genres := rfl }
  | _ => exact { h with }

/-- **What becomes of the reports depends on nothing but the reports.** -/
theorem heed (h : SameReport d d') {op : Op} (hop : op.isIntent = false) :
    SameReport (d.step now op) (d'.step now op) := by
  cases op with
  | connection isLive =>
    have hlive : SameReport { d with connected := isLive } { d' with connected := isLive } :=
      { h with connected := rfl }
    exact hlive.congr_asking (askingOnly_setConnected isLive) (askingOnly_setConnected isLive)
  | event e => exact h.apply e
  | intent i => cases hop

/-- A history and its reports lead to decks that know the same. Induction on the history: an intent
moves one of the decks, and everything else both. -/
theorem run_reports (h : SameReport d d') (history : List (Moment × Op)) :
    SameReport (d.run history) (d'.run (reports history)) := by
  induction history generalizing d d' with
  | nil => exact h
  | cons entry rest ih =>
    obtain ⟨now, op⟩ := entry
    cases op with
    -- only the deck with the intents takes this step
    | intent i => exact ih ((sameReport_intent i).symm.trans h)
    | connection isLive => exact ih (h.heed rfl)
    | event e => exact ih (h.heed rfl)

end SameReport

/-- **Intents leave what the player has reported as it would be without them.** -/
theorem run_sameReport (d : Deck) (history : List (Moment × Op)) :
    SameReport (d.run history) (d.run (reports history)) :=
  (SameReport.refl d).run_reports history

end Deck

end Tuner
