import Tuner.Deck.Inbound
import Tuner.Deck.Intent

/-!
# What happens to a deck

A deck changes when the link opens or closes, at an event, and at an intent, and in no other way
until its notices are shown. `Deck.run` is the deck after any history of such things, so that a law
of all reachable decks is an induction over a list.
-/

namespace Tuner.Deck

/-- What can happen to a deck. -/
inductive Op where
  | connection (isLive : Bool)
  | event (e : Event)
  | intent (i : Intent)
  deriving Repr

/-- The deck after one thing has happened to it. -/
def step (now : Moment) (d : Deck) : Op → Deck
  | .connection isLive => d.setConnected now isLive
  | .event e => d.apply now e
  | .intent i => (d.perform now i).deck

/-- The deck after a history, each thing at its moment. -/
def run (d : Deck) (history : List (Moment × Op)) : Deck :=
  history.foldl (fun d op => d.step op.1 op.2) d

/-- A history may be cut anywhere. -/
theorem run_append (d : Deck) (before after : List (Moment × Op)) :
    d.run (before ++ after) = (d.run before).run after := by
  simp [run]

/-- The command that one thing hands to the link. -/
def command? (now : Moment) (d : Deck) : Op → Option Command
  | .connection _ => none
  | .event _ => none
  | .intent i => (d.perform now i).command

/-! ## Positions in a history -/

/-- The deck after the first `n` things of a history. -/
def after (d : Deck) (history : List (Moment × Op)) (n : Nat) : Deck :=
  d.run (history.take n)

/-- The command that is handed to the link at a position of a history. -/
def commandAt (d : Deck) (history : List (Moment × Op)) (n : Nat) : Option Command :=
  match history[n]? with
  | some (now, op) => (d.after history n).command? now op
  | none => none

variable {d : Deck} {history : List (Moment × Op)} {n : Nat} {now : Moment} {op : Op}

@[simp] theorem after_zero : d.after history 0 = d := rfl

theorem after_succ (h : history[n]? = some (now, op)) :
    d.after history (n + 1) = (d.after history n).step now op := by
  have htake : history.take (n + 1) = history.take n ++ [(now, op)] := by
    rw [List.take_add_one, h, Option.toList_some]
  rw [after, htake, run_append]
  rfl

/-- Beyond its end a history changes nothing. -/
theorem after_succ_of_none (h : history[n]? = none) :
    d.after history (n + 1) = d.after history n := by
  rw [after, List.take_add_one, h, Option.toList_none, List.append_nil, after]

theorem commandAt_eq (h : history[n]? = some (now, op)) :
    d.commandAt history n = (d.after history n).command? now op := by
  rw [commandAt, h]

theorem commandAt_of_none (h : history[n]? = none) : d.commandAt history n = none := by
  rw [commandAt, h]

end Tuner.Deck
