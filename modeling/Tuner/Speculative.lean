import Tuner.Moment

/-!
# Speculative values

When the user asks for a change, the new value is shown at once, although the player has not
confirmed it. The last confirmed value stays beside it, and so does the moment of the change, since
a change that stays unconfirmed for long is shown as overdue. Whatever the player reports replaces
the speculation, whether it agrees or not.
-/

namespace Tuner

/-- A value that may be ahead of what was confirmed. -/
inductive Speculative (α : Type) where
  | confirmed (value : α)
  /-- A value that is shown but not confirmed, the last confirmed one, and the moment since when. -/
  | intended (value confirmed : α) (since : Moment)
  deriving Repr, DecidableEq, Inhabited

/-- The age from which a speculation is overdue. -/
def speculationLimit : Span := Span.ofMilliseconds 3000

namespace Speculative

variable {α : Type}

/-- The value to show. -/
def value : Speculative α → α
  | .confirmed v => v
  | .intended v _ _ => v

/-- The last value that the player reported. -/
def lastConfirmed : Speculative α → α
  | .confirmed v => v
  | .intended _ c _ => c

/-- Whether the value is not confirmed. -/
def isSpeculative : Speculative α → Bool
  | .confirmed _ => false
  | .intended _ _ _ => true

/-- Whether the value has gone unconfirmed for too long. -/
def isOverdue (now : Moment) : Speculative α → Bool
  | .confirmed _ => false
  | .intended _ _ since => (speculationLimit : Int) ≤ now - since

/-- A change by the user. To return to the confirmed value is no speculation. -/
def speculate [DecidableEq α] (now : Moment) (intended : α) (s : Speculative α) : Speculative α :=
  if intended = s.lastConfirmed then .confirmed intended
  else .intended intended s.lastConfirmed now

@[simp] theorem value_speculate [DecidableEq α] (now : Moment) (v : α) (s : Speculative α) :
    (s.speculate now v).value = v := by
  unfold speculate
  split <;> rfl

@[simp] theorem lastConfirmed_speculate [DecidableEq α] (now : Moment) (v : α)
    (s : Speculative α) : (s.speculate now v).lastConfirmed = s.lastConfirmed := by
  unfold speculate
  split
  · assumption
  · rfl

@[simp] theorem isSpeculative_speculate [DecidableEq α] (now : Moment) (v : α)
    (s : Speculative α) : (s.speculate now v).isSpeculative = decide (v ≠ s.lastConfirmed) := by
  unfold speculate
  split
  · simpa [isSpeculative]
  · simpa [isSpeculative]

/-- A report of the player. -/
def confirm (value : α) (_ : Speculative α) : Speculative α :=
  .confirmed value

/-- Whether a report changes the value that is shown. -/
def changedBy [DecidableEq α] (reported : α) (s : Speculative α) : Bool :=
  s.value ≠ reported

/-- The same state with its speculation begun at another moment. -/
def since (start : Moment) : Speculative α → Speculative α
  | .confirmed v => .confirmed v
  | .intended v c _ => .intended v c start

/-! ## Runs -/

/-- What can happen to a value: the user changes it, or the player reports it. -/
inductive Op (α : Type) where
  | speculate (value : α)
  | confirm (value : α)
  deriving Repr, DecidableEq

/-- The value after one thing has happened to it. -/
def step [DecidableEq α] (now : Moment) (s : Speculative α) : Op α → Speculative α
  | .speculate v => s.speculate now v
  | .confirm v => s.confirm v

/-- What is answered. A report is told whether it changes the value that is shown. -/
def answer? [DecidableEq α] (s : Speculative α) : Op α → Option Bool
  | .speculate _ => none
  | .confirm v => some (s.changedBy v)

/-- The value after a history, each thing at its moment. -/
def run [DecidableEq α] (s : Speculative α) (history : List (Moment × Op α)) : Speculative α :=
  history.foldl (fun s op => s.step op.1 op.2) s

theorem run_concat [DecidableEq α] (s : Speculative α) (history : List (Moment × Op α))
    (now : Moment) (op : Op α) :
    s.run (history ++ [(now, op)]) = (s.run history).step now op := by
  simp [run]

/-- What is answered to each thing of a history. -/
def answers [DecidableEq α] (s : Speculative α) : List (Moment × Op α) → List (Option Bool)
  | [] => []
  | (now, op) :: rest => s.answer? op :: (s.step now op).answers rest

end Speculative

end Tuner
