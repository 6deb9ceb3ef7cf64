import Mathlib.Data.List.Forall2
import Mathlib.Data.List.Induction
import Tuner.Deck.History
import Tuner.Proofs.Deck.Frame

/-!
# The stations that are shown

The list of stations is the player's own, and the user has one way to change what is shown of it: to
say which stations take part in the mix. That shows at once, laid over the list that was reported
last. A second choice takes the place of the first one (`mixing_mixing`), and a report takes the
place of all, so what is shown depends on the last report and on the last choice since. Of the
choice only its members count.

`stations_step` says all that one thing can do to the list, `stations_run` what a history comes down
to, and `stations_overlaid` reads that entry by entry.
-/

namespace Tuner

/-- The list of stations that an event reports, if it does. -/
def Event.stations? : Event → Option (List Station)
  | .stations list => some list
  | _ => none

namespace Deck

/-- The list of stations that is reported, if one is. -/
def Op.stations? : Op → Option (List Station)
  | .event e => e.stations?
  | _ => none

/-- The stations that the user puts into the mix, if that is what happens. -/
def Op.mix? : Op → Option (List String)
  | .intent (.setQuickMix ids) => some ids
  | _ => none

/-- The last list of stations that was reported in a history. Before any there are none. -/
def lastStations (history : List (Moment × Op)) : List Station :=
  (history.filterMap (·.2.stations?)).getLast?.getD []

/-- The last choice of stations for the mix since the last report of a history, if there was one. -/
def lastMix (history : List (Moment × Op)) : Option (List String) :=
  (history.reverse.takeWhile (·.2.stations?.isNone)).findSome? (·.2.mix?)

/-- A list of stations with a choice for the mix laid over it, if there is one. -/
def overlaid : Option (List String) → List Station → List Station
  | some ids, stations => mixing ids stations
  | none, stations => stations

/-- A station as it is shown. It differs from what was reported at most in whether it takes part in
the mix, and in that only if the user chose and it is an ordinary station. -/
structure ShownAs (choice : Option (List String)) (reported shown : Station) : Prop where
  id : shown.id = reported.id
  name : shown.name = reported.name
  isQuickMix : shown.isQuickMix = reported.isQuickMix
  chosen : ∀ ids, choice = some ids → reported.isQuickMix = false →
    (shown.isQuickMixed = true ↔ reported.id ∈ ids)
  untouched : choice = none ∨ reported.isQuickMix = true →
    shown.isQuickMixed = reported.isQuickMixed

/-- Two choices with the same members, or none both times. -/
def SameMembers : Option (List String) → Option (List String) → Prop :=
  Option.Rel fun ids ids' => ∀ id, id ∈ ids ↔ id ∈ ids'

variable {now : Moment} {d : Deck} {op : Op} {history : List (Moment × Op)}
variable {ids ids' : List String} {choice choice' : Option (List String)}
variable {list stations : List Station}

/-! ## One more thing in a history -/

theorem lastStations_concat_report (h : op.stations? = some list) :
    lastStations (history ++ [(now, op)]) = list := by
  simp [lastStations, h]

theorem lastStations_concat (h : op.stations? = none) :
    lastStations (history ++ [(now, op)]) = lastStations history := by
  simp [lastStations, h]

/-- With a report the choices before it are gone. -/
theorem lastMix_concat_report (h : op.stations? = some list) :
    lastMix (history ++ [(now, op)]) = none := by
  simp [lastMix, h]

/-- A choice at the end is the last one. With none at the end the one before counts. -/
theorem lastMix_concat (h : op.stations? = none) :
    lastMix (history ++ [(now, op)]) = op.mix?.or (lastMix history) := by
  cases hmix : op.mix? <;> simp [lastMix, h, hmix]

/-! ## Overlays -/

/-- A choice takes the place of the one before, for it decides on every ordinary station. -/
theorem mixing_mixing (ids ids' : List String) (stations : List Station) :
    mixing ids (mixing ids' stations) = mixing ids stations := by
  rw [mixing, mixing, mixing, List.map_map]
  refine List.map_congr_left fun s _ => ?_
  cases h : s.isQuickMix <;> simp [h]

/-- Over whatever was laid over the list before, a choice gives the same stations. -/
theorem mixing_overlaid (ids : List String) (choice : Option (List String))
    (stations : List Station) : mixing ids (overlaid choice stations) = mixing ids stations := by
  cases choice with
  | none => rfl
  | some ids' => exact mixing_mixing ids ids' stations

/-- Of a choice only its members count. -/
theorem overlaid_congr (h : SameMembers choice choice') (stations : List Station) :
    overlaid choice stations = overlaid choice' stations := by
  cases h with
  | none => rfl
  | @some ids ids' hmembers =>
    refine List.map_congr_left fun s _ => ?_
    have hcontains : ids.contains s.id = ids'.contains s.id := by
      rw [Bool.eq_iff_iff, List.contains_iff_mem, List.contains_iff_mem]
      exact hmembers s.id
    rw [hcontains]

/-- Entry by entry, the overlay decides on the ordinary stations and leaves the others as they were
reported. -/
theorem shownAs_overlaid (choice : Option (List String)) (stations : List Station) :
    List.Forall₂ (ShownAs choice) stations (overlaid choice stations) := by
  cases choice with
  | none => exact List.forall₂_same.mpr fun s _ => ⟨rfl, rfl, rfl, nofun, fun _ => rfl⟩
  | some ids =>
    refine List.forall₂_map_right_iff.mpr (List.forall₂_same.mpr fun s _ => ?_)
    -- the mix itself, which no choice touches, or an ordinary station
    cases h : s.isQuickMix with
    | true =>
      rw [if_pos rfl]
      exact ⟨rfl, rfl, rfl, fun _ _ hordinary => by simp [h] at hordinary, fun _ => rfl⟩
    | false =>
      rw [if_neg Bool.false_ne_true]
      refine ⟨rfl, rfl, h.symm, fun chosen hchosen _ => ?_, fun hnot => ?_⟩
      · obtain rfl := Option.some.inj hchosen
        exact List.contains_iff_mem
      · simp [h] at hnot

/-! ## Histories -/

/-- **A report replaces the list, a choice is laid over it, and nothing else matters.** -/
theorem stations_step (now : Moment) (d : Deck) (op : Op) :
    (d.step now op).stations = op.stations?.getD (overlaid op.mix? d.stations) := by
  cases op with
  | connection isLive => exact (askingOnly_setConnected isLive).stations
  | intent i =>
    show (d.perform now i).deck.stations = overlaid (Op.mix? (.intent i)) d.stations
    rw [(perform_anticipates now i d).stations]
    cases i <;> rfl
  | event e =>
    show (d.apply now e).stations = e.stations?.getD d.stations
    cases e with
    | stations list => exact (askingOnly_onStations list).stations
    | stationInfo info => exact (askingOnly_onStationInfo info).stations
    | process s =>
      show (d.onSnapshotSong s).stations = _
      unfold onSnapshotSong
      split <;> rfl
    | _ => rfl

/-- **What a history comes down to for the stations.** Induction from its end, as both functions of
the history look at the end first. -/
theorem stations_run (hstart : d.stations = []) (history : List (Moment × Op)) :
    (d.run history).stations = overlaid (lastMix history) (lastStations history) := by
  induction history using List.reverseRecOn with
  | nil => exact hstart
  | append_singleton history entry ih =>
    obtain ⟨now, op⟩ := entry
    rw [run_append]
    show ((d.run history).step now op).stations = _
    rw [stations_step, ih]
    cases hstations : op.stations? with
    | some list =>
      rw [lastMix_concat_report hstations, lastStations_concat_report hstations]
      rfl
    | none =>
      rw [lastMix_concat hstations, lastStations_concat hstations]
      cases op.mix? with
      | none => rfl
      -- The choice before, if there was one, is gone.
      | some ids => exact mixing_overlaid ids _ _

/-- **The stations that are shown are the last ones reported, with the last choice since laid over
them.** Neither the order of the choice, nor what it repeats, nor any choice before it can be seen
in the list. -/
theorem stations_overlaid (maxGain : Float) (lifetime : Span) (history : List (Moment × Op)) :
    let start := new maxGain lifetime
    List.Forall₂ (ShownAs (lastMix history)) (lastStations history) (start.run history).stations ∧
      ∀ history', lastStations history' = lastStations history →
        SameMembers (lastMix history') (lastMix history) →
          (start.run history').stations = (start.run history).stations := by
  intro start
  have hrun : ∀ history, (start.run history).stations =
      overlaid (lastMix history) (lastStations history) := stations_run rfl
  refine ⟨?_, fun history' hreported hmembers => ?_⟩
  · rw [hrun]
    exact shownAs_overlaid _ _
  · rw [hrun, hrun, hreported, overlaid_congr hmembers]

/-- Of two choices the first leaves no trace, and neither do the order of the second and what it
repeats. The stations have one identifier twice, and the mix itself is none of its members. -/
theorem stations_overlaid_twice :
    let start := new 6 4000000000
    let report : Moment × Op := (0, .event (.stations
      [{ id := "a" }, { id := "q", isQuickMix := true }, { id := "a", isQuickMixed := true },
        { id := "b", isQuickMixed := true }]))
    let history := [report, (1, .intent (.setQuickMix ["a", "z"]))]
    let history' := [report, (1, .intent (.setQuickMix ["b", "q"])),
      (2, .intent (.setQuickMix ["z", "a", "z"]))]
    lastStations history' = lastStations history ∧
      SameMembers (lastMix history') (lastMix history) ∧
      (start.run history').stations = (start.run history).stations ∧
      (start.run history').stations.map (·.isQuickMixed) = [true, false, true, false] := by
  intro start report history history'
  have hreported : lastStations history' = lastStations history := rfl
  have hmembers : SameMembers (lastMix history') (lastMix history) :=
    .some fun id => by grind
  exact ⟨hreported, hmembers,
    (stations_overlaid 6 4000000000 history).2 history' hreported hmembers, by decide⟩

end Deck

end Tuner
