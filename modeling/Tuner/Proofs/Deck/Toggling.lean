import Mathlib.Algebra.Ring.Parity
import Tuner.Proofs.Deck.Delivery

/-!
# Whether a song is shown as playing

What the player reports is on the deck beside what the user has made of it: a toggle flips the value
that is shown, and the last report stays as the confirmed one. So two toggles in a row lead back to
the report, and a report makes an end of all toggles before it, whether it agrees with them or not.

`playing_step` says all that one thing can do to the value. Over a history that comes down to two
numbers, the last report and the count of toggles since: `Tracks` holds after every history
(`tracks_run`). The link has no part in this, and `toggles_counted` says so beside the law: each
toggle is answered as the link likes.
-/

namespace Tuner

/-- What an event reports on whether a song plays, if it does. A start and a stop are such reports.
A snapshot is one in any case: its song plays unless the snapshot denies it, and without a song
nothing plays. -/
def Event.playing? : Event → Option Bool
  | .start _ => some true
  | .stop => some false
  | .process s => some (s.song.isSome && s.playing.getD true)
  | _ => none

namespace Deck

/-- What is reported on whether a song plays, if something is. -/
def Op.report? : Op → Option Bool
  | .event e => e.playing?
  | _ => none

/-- Whether something that happens is a toggle by the user. -/
def Op.isToggle : Op → Bool
  | .intent .togglePlayback => true
  | _ => false

/-- The last report of a history on whether a song plays. Before any nothing plays. -/
def lastReport (history : List (Moment × Op)) : Bool :=
  (history.filterMap (·.2.report?)).getLast?.getD false

/-- How often the user has toggled since the last report of a history. -/
def togglesSince (history : List (Moment × Op)) : Nat :=
  (history.reverse.takeWhile (·.2.report?.isNone)).countP (·.2.isToggle)

variable {now : Moment} {d : Deck} {op : Op} {history : List (Moment × Op)} {b : Bool}

/-! ## One more thing in a history -/

theorem lastReport_concat_report (h : op.report? = some b) :
    lastReport (history ++ [(now, op)]) = b := by
  simp [lastReport, h]

theorem lastReport_concat (h : op.report? = none) :
    lastReport (history ++ [(now, op)]) = lastReport history := by
  simp [lastReport, h]

/-- The count starts again with each report. -/
theorem togglesSince_concat_report (h : op.report? = some b) :
    togglesSince (history ++ [(now, op)]) = 0 := by
  simp [togglesSince, h]

theorem togglesSince_concat (h : op.report? = none) :
    togglesSince (history ++ [(now, op)]) =
      togglesSince history + if op.isToggle then 1 else 0 := by
  simp [togglesSince, h, List.countP_cons]

/-! ## What one thing does to the value -/

/-- A snapshot always reports: without a song nothing plays, and with one it plays unless denied. -/
theorem playing_onSnapshot (s : Snapshot) :
    (d.onSnapshot s).playing = .confirmed (s.song.isSome && s.playing.getD true) := by
  show (d.onSnapshotSong s).playing = _
  unfold onSnapshotSong
  cases s.song <;> rfl

/-- An event confirms what it reports, or leaves the value alone. -/
theorem playing_apply (e : Event) :
    (d.apply now e).playing = (e.playing?.map .confirmed).getD d.playing := by
  cases e with
  | process s => exact playing_onSnapshot s
  | stations list => exact (askingOnly_onStations list).playing
  | stationInfo info => exact (askingOnly_onStationInfo info).playing
  | _ => rfl

/-- To toggle is to speculate on the opposite of what is shown. No other intent touches the value.
-/
theorem playing_perform (i : Intent) :
    (d.perform now i).deck.playing =
      if Op.isToggle (.intent i) then d.playing.speculate now (!d.isPlaying) else d.playing := by
  rw [(perform_anticipates now i d).playing]
  cases i <;> rfl

/-- **A report is confirmed, a toggle is speculated on, and nothing else matters.** -/
theorem playing_step (now : Moment) (d : Deck) (op : Op) :
    (d.step now op).playing =
      match op.report? with
      | some b => .confirmed b
      | none => if op.isToggle then d.playing.speculate now (!d.isPlaying) else d.playing := by
  cases op with
  | connection isLive => exact (askingOnly_setConnected isLive).playing
  | intent i => exact playing_perform i
  | event e =>
    show (d.apply now e).playing = _
    rw [playing_apply]
    cases h : e.playing? <;> simp [Op.report?, Op.isToggle, h]

/-! ## Whole histories -/

/-- A value with the last report of a history as the confirmed one, which is shown flipped if the
toggles since are odd in number, and then only is a speculation. -/
structure Tracks (history : List (Moment × Op)) (s : Speculative Bool) : Prop where
  confirmed : s.lastConfirmed = lastReport history
  shown : s.value = if Odd (togglesSince history) then !lastReport history else lastReport history
  speculative : s.isSpeculative = true ↔ Odd (togglesSince history)

variable {s : Speculative Bool}

/-- A report sets the value to itself, with no toggle since. -/
theorem Tracks.report (h : op.report? = some b) :
    Tracks (history ++ [(now, op)]) (.confirmed b) := by
  constructor <;>
    simp [lastReport_concat_report h, togglesSince_concat_report h, Speculative.lastConfirmed,
      Speculative.value, Speculative.isSpeculative]

/-- What neither reports nor toggles changes neither side. -/
theorem Tracks.idle (ht : Tracks history s) (hreport : op.report? = none)
    (htoggle : op.isToggle = false) : Tracks (history ++ [(now, op)]) s := by
  have hcount : togglesSince (history ++ [(now, op)]) = togglesSince history := by
    rw [togglesSince_concat hreport, htoggle]
    rfl
  constructor
  · rw [lastReport_concat hreport, ht.confirmed]
  · rw [lastReport_concat hreport, hcount, ht.shown]
  · rw [hcount, ht.speculative]

/-- A toggle flips what is shown, and the value is a speculation if that is not the report. -/
theorem Tracks.toggle (ht : Tracks history s) (hreport : op.report? = none)
    (htoggle : op.isToggle = true) :
    Tracks (history ++ [(now, op)]) (s.speculate now (!s.value)) := by
  -- One more toggle turns the parity around, and with it what is shown.
  have hparity : Odd (togglesSince (history ++ [(now, op)])) ↔ ¬ Odd (togglesSince history) := by
    rw [togglesSince_concat hreport, htoggle]
    exact Nat.odd_add_one
  constructor
  · rw [Speculative.lastConfirmed_speculate, lastReport_concat hreport, ht.confirmed]
  · rw [Speculative.value_speculate, lastReport_concat hreport, ht.shown]
    by_cases hodd : Odd (togglesSince history) <;> simp [hparity, hodd]
  · rw [Speculative.isSpeculative_speculate, ht.confirmed, ht.shown, hparity]
    by_cases hodd : Odd (togglesSince history) <;> simp [hodd]

/-- The value tracks every history. Induction from its end, with one of the three lemmas above for
the last thing in it. -/
theorem tracks_run (hstart : Tracks [] d.playing) (history : List (Moment × Op)) :
    Tracks history (d.run history).playing := by
  induction history using List.reverseRecOn with
  | nil => exact hstart
  | append_singleton history entry ih =>
    obtain ⟨now, op⟩ := entry
    rw [run_append]
    show Tracks _ ((d.run history).step now op).playing
    -- The three ways in which the value can go on are those of `playing_step`.
    rw [playing_step]
    cases hreport : op.report? with
    | some b => exact .report hreport
    | none =>
      cases htoggle : op.isToggle with
      | true => exact ih.toggle hreport htoggle
      | false => exact ih.idle hreport htoggle

theorem tracks_new (maxGain : Float) (lifetime : Span) : Tracks [] (new maxGain lifetime).playing :=
  ⟨rfl, rfl, by simp [new, Speculative.isSpeculative, togglesSince]⟩

/-- **What is shown as playing is the last report, flipped once for each toggle since.** The report
stays the confirmed value, and the value that is shown is a speculation as long as the number of
toggles is odd. Whether the link takes the commands of the toggles is told to the user and makes no
difference. -/
theorem toggles_counted (maxGain : Float) (lifetime : Span) (history : List (Moment × Op))
    (up : Nat → Bool) :
    let start := new maxGain lifetime
    let d := start.run history
    d.playing.lastConfirmed = lastReport history ∧
      d.isPlaying =
        (if Odd (togglesSince history) then !lastReport history else lastReport history) ∧
      (d.playing.isSpeculative = true ↔ Odd (togglesSince history)) ∧
      ∀ n now, history[n]? = some (now, .intent .togglePlayback) →
        start.answerAt history up n = some (up n) := by
  intro start d
  have htracks := tracks_run (tracks_new maxGain lifetime) history
  refine ⟨htracks.confirmed, htracks.shown, htracks.speculative, fun n now h => ?_⟩
  simp only [answerAt, h]
  rfl

/-- A report that nothing plays, and three toggles behind it that the link does not take. -/
theorem toggles_counted_refused :
    let history : List (Moment × Op) :=
      [(0, .event (.start {})), (1, .intent .togglePlayback), (2, .connection false),
        (3, .event (.process { song := some {}, playing := some false })),
        (4, .intent .togglePlayback), (5, .intent .togglePlayback), (6, .intent .togglePlayback)]
    let start := new 10 4000000000
    let d := start.run history
    d.playing.lastConfirmed = false ∧ d.isPlaying = true ∧ d.playing.isSpeculative = true ∧
      start.answerAt history (fun _ => false) 6 = some false := by
  intro history start d
  obtain ⟨hconfirmed, hshown, hspeculative, hanswer⟩ :=
    toggles_counted 10 4000000000 history fun _ => false
  have hodd : Odd (togglesSince history) := ⟨1, rfl⟩
  rw [if_pos hodd] at hshown
  exact ⟨hconfirmed, hshown, hspeculative.mpr hodd, hanswer 6 6 rfl⟩

end Deck

end Tuner
