import Tuner.Console.Run

/-!
# What happens to a console

A session that is used from the console changes when the user types a line, when the link is used or
reports something, and when the view shows what is new. `run` is the session after any history of
such things. The program shows what is new after every line and after every batch of reports;
here that may happen at any time.
-/

namespace Tuner.Console

/-- What can happen to a session that is used from the console. -/
inductive Op where
  /-- The user types a line. -/
  | line (text : String)
  | connect
  | listen (label : String)
  | vanish
  | receive (e : SocketEvent)
  /-- The view shows what is new. -/
  | refresh
  deriving Repr

/-- The session after a line. A line that is no order changes nothing. -/
def typed (now : Moment) (text : String) (s : Session) : Session :=
  match Order.parse text with
  | .ok o => (execute now o s).session
  | .error _ => s

theorem typed_of_parse {now : Moment} {text : String} {o : Order} {s : Session}
    (h : Order.parse text = .ok o) : typed now text s = (execute now o s).session := by
  rw [typed, h]

/-- The session once the view has shown what is new. -/
def shown (s : Session) : Session :=
  { s with deck := View.settle s.deck }

/-- The session after one thing has happened to it. -/
def step (now : Moment) (s : Session) : Op → Session
  | .line text => typed now text s
  | .connect => s.modifyLink .connect
  | .listen label => s.modifyLink (.listen label)
  | .vanish => s.modifyLink .vanish
  | .receive e => s.receive now e
  | .refresh => shown s

/-- The session after a history, each thing at its moment. -/
def run (s : Session) (history : List (Moment × Op)) : Session :=
  history.foldl (fun s op => step op.1 s op.2) s

end Tuner.Console
