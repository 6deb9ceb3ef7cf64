import Mathlib.Data.List.Induction
import Tuner.Speculative

/-!
# What a speculative value follows

Two parties set a value, the user and the player. The one that is shown is what was set last,
whoever it was, and the confirmed one is what the player reported last. The first is plain from the
last step alone (`value_step`). The second has to be carried along (`lastConfirmed_step`), also by a
speculation that leads back to the confirmed value and with that ends itself.

`Follows` says this of a value and a history, with what hangs on it: whether the value is a
speculation, and from when on it is overdue. `Follows.step` keeps it and `follows_run` is the
induction over the history. What is answered on the way is read off the run (`getElem?_answers`).
-/

namespace Tuner.Speculative

variable {α : Type}

/-! ## What a history sets -/

/-- The value that is set, by either party. -/
def Op.value : Op α → α
  | .speculate v => v
  | .confirm v => v

/-- The value that is reported, if this is a report. -/
def Op.report? : Op α → Option α
  | .speculate _ => none
  | .confirm v => some v

/-- The value that a history sets last. -/
def lastSet (initial : α) (history : List (Moment × Op α)) : α :=
  (history.map (·.2.value)).getLast?.getD initial

/-- The value that a history reports last. -/
def lastReport (initial : α) (history : List (Moment × Op α)) : α :=
  (history.filterMap (·.2.report?)).getLast?.getD initial

variable {initial : α} {history : List (Moment × Op α)} {s : Speculative α}
variable {now : Moment} {op : Op α}

/-- The last thing sets the value, whatever it is. -/
theorem lastSet_concat : lastSet initial (history ++ [(now, op)]) = op.value := by
  simp [lastSet]

theorem lastReport_concat :
    lastReport initial (history ++ [(now, op)]) = op.report?.getD (lastReport initial history) := by
  cases op with
  | speculate v => simp [lastReport, Op.report?]
  | confirm v => simp [lastReport, Op.report?]

/-- A value as it is after a history. -/
structure Follows (initial : α) (history : List (Moment × Op α)) (s : Speculative α) : Prop where
  shown : s.value = lastSet initial history
  confirmed : s.lastConfirmed = lastReport initial history
  speculative : s.isSpeculative = true ↔ s.value ≠ s.lastConfirmed
  /-- Nothing but a speculation is ever overdue, and that one once the last thing that happened is
  long enough ago. -/
  overdue : ∀ later, s.isOverdue later = true ↔ s.isSpeculative = true ∧
    ∃ start op, history.getLast? = some (start, op) ∧ (speculationLimit : Int) ≤ later - start

theorem follows_nil (initial : α) : Follows initial [] (confirmed initial) where
  shown := rfl
  confirmed := rfl
  speculative := iff_of_false Bool.false_ne_true fun h => h rfl
  overdue _ := iff_of_false Bool.false_ne_true fun h => Bool.false_ne_true h.1

variable [DecidableEq α]

/-! ## One step -/

theorem value_step : (s.step now op).value = op.value := by
  cases op with
  | speculate v => exact value_speculate now v s
  | confirm v => rfl

/-- **A report is confirmed, and a speculation leaves the confirmed value as it is.** -/
theorem lastConfirmed_step : (s.step now op).lastConfirmed = op.report?.getD s.lastConfirmed := by
  cases op with
  | speculate v => exact lastConfirmed_speculate now v s
  | confirm v => rfl

/-- A value is a speculation as long as it differs from the confirmed one. -/
theorem isSpeculative_step : (s.step now op).isSpeculative = true ↔
    (s.step now op).value ≠ (s.step now op).lastConfirmed := by
  rw [value_step, lastConfirmed_step]
  cases op with
  | speculate v =>
    show (s.speculate now v).isSpeculative = true ↔ v ≠ s.lastConfirmed
    rw [isSpeculative_speculate, decide_eq_true_eq]
  | confirm v =>
    -- What is shown is the report itself, which is the confirmed value from now on.
    exact iff_of_false Bool.false_ne_true fun h => h rfl

/-- A step starts the clock anew, but for a value that is no speculation. -/
theorem isOverdue_step (later : Moment) : (s.step now op).isOverdue later = true ↔
    (s.step now op).isSpeculative = true ∧ (speculationLimit : Int) ≤ later - now := by
  cases op with
  | speculate v =>
    show (s.speculate now v).isOverdue later = true ↔ (s.speculate now v).isSpeculative = true ∧ _
    unfold speculate
    split <;> simp [isOverdue, isSpeculative]
  | confirm v => exact iff_of_false Bool.false_ne_true fun h => Bool.false_ne_true h.1

/-- The confirmed value is all that a step needs to know of the value before it. -/
theorem Follows.step (h : Follows initial history s) :
    Follows initial (history ++ [(now, op)]) (s.step now op) where
  shown := by rw [value_step, lastSet_concat]
  confirmed := by rw [lastConfirmed_step, lastReport_concat, h.confirmed]
  speculative := isSpeculative_step
  overdue later := by simp [isOverdue_step]

/-! ## Whole histories -/

/-- **A value follows every history.** Induction from its end. -/
theorem follows_run (initial : α) (history : List (Moment × Op α)) :
    Follows initial history ((confirmed initial).run history) := by
  induction history using List.reverseRecOn with
  | nil => exact follows_nil initial
  | append_singleton history entry ih =>
    obtain ⟨now, op⟩ := entry
    rw [run_concat]
    exact ih.step

/-- What is answered depends on the value as it is by then. -/
theorem getElem?_answers (s : Speculative α) (history : List (Moment × Op α)) (n : Nat) :
    (s.answers history)[n]? =
      history[n]?.map fun entry => (s.run (history.take n)).answer? entry.2 := by
  induction history generalizing s n with
  | nil => rfl
  | cons entry rest ih =>
    cases n with
    | zero => rfl
    | succ n => exact ih (s.step entry.1 entry.2) n

/-- **A speculative value follows its history.** It is shown as it was set last and confirmed as it
was reported last, and it is a speculation as long as the two differ. A report is told whether it
made a difference to what was shown. -/
theorem history_followed (initial : α) (history : List (Moment × Op α)) :
    let start := confirmed initial
    Follows initial history (start.run history) ∧
      ∀ n now v, history[n]? = some (now, .confirm v) →
        ∃ changed, (start.answers history)[n]? = some (some changed) ∧
          (changed = true ↔ (start.run (history.take n)).value ≠ v) := by
  intro start
  refine ⟨follows_run initial history, fun n now v h => ?_⟩
  refine ⟨(start.run (history.take n)).changedBy v, ?_, ?_⟩
  · rw [getElem?_answers, h]
    rfl
  · rw [changedBy, decide_eq_true_eq]

/-- A speculation leads back to the confirmed value and away again before a report ends it, and one
more is overdue after three seconds. -/
theorem history_followed_back :
    let history : List (Moment × Op Nat) := [(0, .confirm 1), (1, .speculate 2), (2, .speculate 1),
      (3, .speculate 3), (4, .confirm 1), (5, .speculate 2)]
    let start := confirmed 0
    let s := start.run history
    history[4]? = some (4, .confirm 1) ∧ (start.answers history)[4]? = some (some true) ∧
      s.value = 2 ∧ s.lastConfirmed = 1 ∧ s.isSpeculative = true ∧
      s.isOverdue 3000000004 = false ∧ s.isOverdue 3000000005 = true := by
  intro history start s
  obtain ⟨hfollows, hanswers⟩ := history_followed 0 history
  have hvalue : s.value = 2 := hfollows.shown
  have hconfirmed : s.lastConfirmed = 1 := hfollows.confirmed
  have hspeculative : s.isSpeculative = true := by
    rw [hfollows.speculative, hvalue, hconfirmed]
    decide
  obtain ⟨changed, hanswer, hchanged⟩ := hanswers 4 4 1 rfl
  rw [hchanged.mpr (by decide)] at hanswer
  refine ⟨rfl, hanswer, hvalue, hconfirmed, hspeculative, ?_, ?_⟩
  · rw [← Bool.not_eq_true, hfollows.overdue]
    rintro ⟨-, start, op, hlast, hlimit⟩
    cases hlast
    revert hlimit
    decide
  · exact (hfollows.overdue _).mpr ⟨hspeculative, 5, .speculate 2, rfl, by decide⟩

end Tuner.Speculative
