import Tuner.Dialog
import Tuner.Proofs.Text.Trim

/-!
# What a dialog holds at its stages

A dialog may ask the player for something once it is at its last stage. This module says what its
flow holds by then. The invariant is local: a stage that is passed leaves something behind (`Left`),
and a flow is sound if every stage before its position has (`Sound`). The moves of a flow keep it
sound provided that the stage which is left has done its part.
-/

namespace Tuner

/-- What a stage leaves in the flow of a dialog. A new station that is made from the song that plays
or from its artist needs no search. -/
def Stage.Left (dialog : Dialog) (f : Flow) : Stage → Prop
  | .selectSource => f.source.isSome
  | .selectStation => f.station.isSome
  | .search => f.selection.isSome ∨
      dialog = .createStation ∧ (f.source = some .song ∨ f.source = some .artist)
  | .editName => Text.trim f.text = f.text ∧ f.text ≠ ""
  | .reviewSeeds => f.selection.isSome
  | .confirm => True

namespace Flow

variable {dialog : Dialog} {stage : Stage} {f g : Flow}

/-- Every stage that is passed has left what it leaves. -/
structure Sound (dialog : Dialog) (f : Flow) : Prop where
  inRange : f.position < dialog.stages.length
  passed : ∀ stage ∈ dialog.stages.take f.position, stage.Left dialog f

/-- A flow with all that the command of its dialog needs. -/
def Ready (f : Flow) : Dialog → Prop
  | .createStation => f.source.isSome ∧
      (f.source = some .genre ∨ f.source = some .search → f.selection.isSome)
  | .addMusic => f.station.isSome ∧ f.selection.isSome
  | .rename => f.station.isSome ∧ Text.trim f.text = f.text ∧ f.text ≠ ""
  | .delete => f.station.isSome
  | .seeds => f.station.isSome ∧ f.selection.isSome

/-! ## Where a flow is -/

theorem stage?_of_isAt (h : f.isAt dialog stage = true) :
    dialog.stages[f.position]? = some stage := by
  simpa [isAt, stage?] using h

/-- No dialog comes to a stage twice, so the stage tells the position. -/
theorem position_eq (h : f.isAt dialog stage = true) :
    f.position = dialog.stages.idxOf stage := by
  have hstage := stage?_of_isAt h
  obtain ⟨hlt, hget⟩ := List.getElem?_eq_some_iff.mp hstage
  have hnodup : dialog.stages.Nodup := by cases dialog <;> decide
  rw [← hget, hnodup.idxOf_getElem]

theorem mem_stages (h : f.isAt dialog stage = true) : stage ∈ dialog.stages :=
  List.mem_of_getElem? (stage?_of_isAt h)

/-- The source of a new station is asked for first. -/
theorem position_selectSource (h : f.isAt .createStation .selectSource = true) :
    f.position = 0 := position_eq h

/-- The station is asked for first wherever it is asked for. -/
theorem position_selectStation (h : f.isAt dialog .selectStation = true) : f.position = 0 := by
  -- A dialog without that stage is not at it.
  have hmem := mem_stages h
  rw [position_eq h]
  revert hmem
  cases dialog <;> decide

/-- No name has been entered before a search. -/
theorem editName_not_passed (h : f.isAt dialog .search = true) :
    .editName ∉ dialog.stages.take f.position := by
  have hmem := mem_stages h
  rw [position_eq h]
  revert hmem
  cases dialog <;> decide

/-! ## Moves -/

/-- A dialog that has not begun has passed nothing. -/
theorem sound_idle (dialog : Dialog) : ({} : Flow).Sound dialog where
  inRange := by cases dialog <;> decide
  passed stage h := by simp at h

/-- What is left does not depend on the position. -/
theorem left_position (n : Nat) (h : stage.Left dialog f) :
    stage.Left dialog { f with position := n } := by
  cases stage <;> exact h

/-- To select something takes nothing away. -/
theorem left_selection (id : String) (h : stage.Left dialog f) :
    stage.Left dialog { f with selection := some id } := by
  -- a selection is what two of the stages leave
  cases stage with
  | search => exact Or.inl rfl
  | reviewSeeds => rfl
  | selectSource => exact h
  | selectStation => exact h
  | editName => exact h
  | confirm => exact h

/-- To enter a text touches only the stage where one is entered. -/
theorem left_text (text : String) (hstage : stage ≠ .editName) (h : stage.Left dialog f) :
    stage.Left dialog { f with text } := by
  cases stage with
  | editName => exact absurd rfl hstage
  | selectSource => exact h
  | selectStation => exact h
  | search => exact h
  | reviewSeeds => exact h
  | confirm => exact h

/-- A flow may be changed at its position as long as what was left is still there. -/
theorem Sound.change (h : f.Sound dialog) (hposition : g.position = f.position)
    (hkeeps : ∀ s ∈ dialog.stages.take f.position, s.Left dialog f → s.Left dialog g) :
    g.Sound dialog where
  inRange := by rw [hposition]; exact h.inRange
  passed s hs := by
    rw [hposition] at hs
    exact hkeeps s hs (h.passed s hs)

/-- A sound flow may go on once the stage it is at has done its part. -/
theorem Sound.advance (h : g.Sound dialog) (hat : g.isAt dialog stage = true)
    (hleft : stage.Left dialog g) : (g.advance dialog).Sound dialog := by
  unfold Flow.advance
  split
  · rename_i hcan
    rw [canAdvance, decide_eq_true_eq] at hcan
    refine ⟨hcan, fun s hs => left_position _ ?_⟩
    -- One more stage is passed than before, the one that the flow was at.
    have htake : dialog.stages.take (g.position + 1) =
        dialog.stages.take g.position ++ [stage] := by
      rw [List.take_add_one, stage?_of_isAt hat, Option.toList_some]
    rw [show ({ g with position := g.position + 1 } : Flow).position = g.position + 1 from rfl,
      htake] at hs
    rcases List.mem_append.mp hs with hs | hs
    · exact h.passed s hs
    · rw [List.mem_singleton.mp hs]
      exact hleft
  · exact h

/-- A station that is made from what plays is confirmed at once. -/
theorem sound_skipTo (hposition : f.position = 0)
    (hsource : f.source = some .song ∨ f.source = some .artist) :
    (f.skipTo .createStation .confirm).Sound .createStation := by
  have hskip : f.skipTo .createStation .confirm = { f with position := 2 } := by
    unfold skipTo ahead?
    rw [hposition]
    rfl
  rw [hskip]
  refine ⟨show 2 < 3 by decide, fun s hs => left_position 2 ?_⟩
  obtain rfl | rfl : s = .selectSource ∨ s = .search := by simpa [Dialog.stages] using hs
  · show f.source.isSome = true
    rcases hsource with h | h <;> rw [h] <;> rfl
  · exact Or.inr ⟨rfl, hsource⟩

/-! ## The last stage -/

/-- **At its last stage a sound flow has all that its command needs.** -/
theorem Sound.ready (h : f.Sound dialog) (hat : f.isAt dialog .confirm = true) :
    f.Ready dialog := by
  -- the last stage is known, so what was passed is all the others
  have hposition := position_eq hat
  have hpassed := h.passed
  rw [hposition] at hpassed
  cases dialog with
  | createStation =>
    have hsource : f.source.isSome = true := hpassed .selectSource (by decide)
    refine ⟨hsource, fun hkind => ?_⟩
    rcases hpassed .search (by decide) with hselection | ⟨-, hkind'⟩
    · exact hselection
    · -- Only what plays needs no search.
      rcases hkind with h | h <;> rcases hkind' with h' | h' <;> rw [h] at h' <;> cases h'
  | addMusic =>
    refine ⟨hpassed .selectStation (by decide), ?_⟩
    rcases hpassed .search (by decide) with hselection | ⟨hdialog, -⟩
    · exact hselection
    · cases hdialog
  | rename => exact ⟨hpassed .selectStation (by decide), hpassed .editName (by decide)⟩
  | delete => exact hpassed .selectStation (by decide)
  | seeds => exact ⟨hpassed .selectStation (by decide), hpassed .reviewSeeds (by decide)⟩

end Flow

end Tuner
