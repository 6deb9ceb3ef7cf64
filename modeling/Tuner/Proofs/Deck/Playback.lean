import Tuner.Deck.History
import Tuner.Proofs.Deck.Frame

/-!
# What plays after a snapshot

A snapshot is the player's answer to a query, and a client asks for one whenever its link opens. It
has to make good whatever was missed or only guessed before: two decks that take in the same
snapshot, whatever they were before, show the same thing as playing from then on. This is about two
runs at once. `SamePlayback` is the relation between them, and

* `samePlayback_onSnapshot` — a snapshot establishes it from nothing, if it names all it can name;
* `SamePlayback.step` — everything that can happen keeps it, at whatever moment it happens;
* `resynchronized` — so it holds after every history that begins with the snapshot.

The moments are left out, since they make no difference to the relation. The only trace they leave
in what plays is the moment at which a change of the user began.
-/

namespace Tuner

/-- A snapshot that names all it can name but the song, which is missing where nothing plays. -/
structure Snapshot.IsFull (s : Snapshot) : Prop where
  station : s.station.isSome
  stationId : s.stationId.isSome
  volume : s.volume.isSome
  maxGain : s.maxGain.isSome

namespace Deck

/-- Two decks that show the same thing as playing and know the same of it to be confirmed. -/
structure SamePlayback (d d' : Deck) : Prop where
  song : d.song = d'.song
  shown : d.playing.value = d'.playing.value
  confirmed : d.playing.lastConfirmed = d'.playing.lastConfirmed
  elapsed : d.elapsed = d'.elapsed
  total : d.total = d'.total
  gain : d.gain = d'.gain
  maxGain : d.maxGain = d'.maxGain
  stationId : d.stationId = d'.stationId
  stationName : d.stationName = d'.stationName

variable {now now' : Moment} {d d' : Deck}

namespace SamePlayback

theorem symm (h : SamePlayback d d') : SamePlayback d' d :=
  ⟨h.song.symm, h.shown.symm, h.confirmed.symm, h.elapsed.symm, h.total.symm, h.gain.symm,
    h.maxGain.symm, h.stationId.symm, h.stationName.symm⟩

theorem trans {d₁ d₂ d₃ : Deck} (h : SamePlayback d₁ d₂) (h' : SamePlayback d₂ d₃) :
    SamePlayback d₁ d₃ :=
  ⟨h.song.trans h'.song, h.shown.trans h'.shown, h.confirmed.trans h'.confirmed,
    h.elapsed.trans h'.elapsed, h.total.trans h'.total, h.gain.trans h'.gain,
    h.maxGain.trans h'.maxGain, h.stationId.trans h'.stationId,
    h.stationName.trans h'.stationName⟩

end SamePlayback

/-- What is only asked touches nothing that plays. -/
theorem AskingOnly.samePlayback (h : d.AskingOnly d') : SamePlayback d d' := by
  constructor <;> rw [h]

namespace SamePlayback

/-- What is only asked makes no difference between two decks. -/
theorem congr_asking {e e' : Deck} (h : SamePlayback d d') (he : d.AskingOnly e)
    (he' : d'.AskingOnly e') : SamePlayback e e' :=
  (he.samePlayback.symm.trans h).trans he'.samePlayback

/-! ## Events -/

/-- A report that names no station leaves both decks with the station that they agree on. -/
theorem tune (h : SamePlayback d d') (id name : Option String) :
    SamePlayback (d.tune id name) (d'.tune id name) :=
  { h with
    stationId := congrArg id.or h.stationId
    stationName := congrArg name.or h.stationName }

/-- A start says all there is to say of the song. Its station may be missing, and then the decks
agree as before. -/
theorem onStart (h : SamePlayback d d') (s : TrackStart) :
    SamePlayback (d.onStart s) (d'.onStart s) := by
  refine tune ?_ s.stationId s.station
  exact { h with song := rfl, shown := rfl, confirmed := rfl, elapsed := rfl, total := rfl }

/-- A snapshot says whether something plays, and what. -/
theorem onSnapshotSong (h : SamePlayback d d') (s : Snapshot) :
    SamePlayback (d.onSnapshotSong s) (d'.onSnapshotSong s) := by
  unfold Deck.onSnapshotSong
  cases s.song with
  | some song =>
    exact { h with song := rfl, shown := rfl, confirmed := rfl, elapsed := rfl, total := rfl }
  | none =>
    exact { h with song := rfl, shown := rfl, confirmed := rfl, elapsed := rfl, total := rfl }

/-- A snapshot leaves what it does not name, on both decks. -/
theorem onSnapshot (h : SamePlayback d d') (s : Snapshot) :
    SamePlayback (d.onSnapshot s) (d'.onSnapshot s) := by
  have hplayback := (h.onSnapshotSong s).tune s.stationId s.station
  exact
    { hplayback with
      maxGain := congrArg s.maxGain.getD hplayback.maxGain
      gain := congrArg s.volume.getD hplayback.gain }

/-- The moment of an event matters to notices and to no part of what plays, so the two decks may get
it at different ones. -/
theorem apply (h : SamePlayback d d') (e : Event) :
    SamePlayback (d.apply now e) (d'.apply now' e) := by
  cases e with
  | start s => exact h.onStart s
  | stop => exact { h with shown := rfl, confirmed := rfl, elapsed := rfl, total := rfl }
  | progress p => exact { h with elapsed := rfl, total := rfl }
  | process s => exact h.onSnapshot s
  | stations list =>
    have hlist : SamePlayback { d with stations := list } { d' with stations := list } := { h with }
    exact hlist.congr_asking (askingOnly_onStations list) (askingOnly_onStations list)
  | stationInfo info =>
    exact h.congr_asking (askingOnly_onStationInfo info) (askingOnly_onStationInfo info)
  | _ => exact { h with }

/-! ## Intents -/

/-- A toggle flips the value that is shown, which is the same on both decks. When it is overdue may
differ, and that is not compared. -/
theorem anticipate (h : SamePlayback d d') (i : Intent) :
    SamePlayback (d.anticipate now i) (d'.anticipate now' i) := by
  cases i with
  | togglePlayback =>
    have hshown : (!d.isPlaying) = !d'.isPlaying := congrArg not h.shown
    refine { h with shown := ?_, confirmed := ?_ }
    · simpa [Deck.anticipate] using hshown
    · simpa [Deck.anticipate] using h.confirmed
  | love => exact { h with song := congrArg (fun song : Song => { song with rating := 1 }) h.song }
  | setGain percent =>
    exact { h with gain := congrArg (Gain.ofPercent (Gain.clamp 0 100 percent)) h.maxGain }
  | setQuickMix ids => exact { h with }
  | _ => exact h

/-! ## All that can happen -/

/-- **Whatever happens to two decks that agree, they agree afterwards.** -/
theorem step (h : SamePlayback d d') (op : Op) :
    SamePlayback (d.step now op) (d'.step now' op) := by
  cases op with
  | connection isLive =>
    have hlive : SamePlayback { d with connected := isLive } { d' with connected := isLive } :=
      { h with }
    exact hlive.congr_asking (askingOnly_setConnected isLive) (askingOnly_setConnected isLive)
  | event e => exact h.apply e
  | intent i =>
    exact (h.anticipate i).congr_asking (perform_anticipates now i d)
      (perform_anticipates now' i d')

/-- Decks that agree still do after any history, whenever its parts happen on either side. Induction
on the two histories together. -/
theorem run {history history' : List (Moment × Op)} (h : SamePlayback d d')
    (hsame : history.map (·.2) = history'.map (·.2)) :
    SamePlayback (d.run history) (d'.run history') := by
  induction history generalizing d d' history' with
  | nil =>
    obtain rfl := List.map_eq_nil_iff.mp hsame.symm
    exact h
  | cons entry rest ih =>
    obtain ⟨entry', rest', rfl, hop, hrest⟩ := List.map_eq_cons_iff.mp hsame.symm
    obtain ⟨now, op⟩ := entry
    obtain ⟨now', op'⟩ := entry'
    obtain rfl : op' = op := hop
    show SamePlayback ((d.step now op').run rest) ((d'.step now' op').run rest')
    exact ih (h.step op') hrest.symm

end SamePlayback

/-! ## Resynchronization -/

/-- A full snapshot leaves nothing of what played before. -/
theorem samePlayback_onSnapshot {s : Snapshot} (hfull : s.IsFull) (d d' : Deck) :
    SamePlayback (d.onSnapshot s) (d'.onSnapshot s) := by
  obtain ⟨hname, hid, hvolume, hmaxGain⟩ := hfull
  obtain ⟨song, playing, elapsed, station, stationId, volume, maxGain⟩ := s
  obtain ⟨name, rfl⟩ := Option.isSome_iff_exists.mp hname
  obtain ⟨id, rfl⟩ := Option.isSome_iff_exists.mp hid
  obtain ⟨level, rfl⟩ := Option.isSome_iff_exists.mp hvolume
  obtain ⟨ceiling, rfl⟩ := Option.isSome_iff_exists.mp hmaxGain
  -- with a song or without one, nothing of the deck before is left
  cases song with
  | some song => exact ⟨rfl, rfl, rfl, rfl, rfl, rfl, rfl, rfl, rfl⟩
  | none => exact ⟨rfl, rfl, rfl, rfl, rfl, rfl, rfl, rfl, rfl⟩

/-- **From a full snapshot on, what plays depends on the snapshot and on what follows it.** -/
theorem resynchronized {s : Snapshot} (hfull : s.IsFull) (d d' : Deck) (now now' : Moment)
    {history history' : List (Moment × Op)} (hsame : history.map (·.2) = history'.map (·.2)) :
    SamePlayback (d.run ((now, .event (.process s)) :: history))
      (d'.run ((now', .event (.process s)) :: history')) :=
  (samePlayback_onSnapshot hfull d d').run hsame

/-- A deck that was toggled at the wrong moment, and one that has missed all there was before. -/
theorem resynchronized_missed :
    let s : Snapshot :=
      { station := some "Mix", stationId := some "1", volume := some 0, maxGain := some 6 }
    let d := (new 6 4000000000).run [(0, .event (.start { station := some "Jazz" })),
      (1, .intent .togglePlayback), (2, .intent (.setGain 70))]
    let d' := new 10 4000000000
    let rest : List Op := [.intent (.setGain 80), .intent .togglePlayback]
    s.IsFull ∧
      SamePlayback
        (d.run ((3, .event (.process s)) :: rest.map fun op => (4, op)))
        (d'.run ((7, .event (.process s)) :: rest.map fun op => (9, op))) := by
  intro s d d' rest
  have hfull : s.IsFull := ⟨rfl, rfl, rfl, rfl⟩
  exact ⟨hfull, resynchronized hfull d d' 3 7 rfl⟩

end Deck

end Tuner
