import Tuner.Console.Run

/-!
# What a screen prints

The console takes one line or one report at a time and then shows what is new. A history of such
turns prints items, and what a user sees of a search is the last listing among them.
-/

namespace Tuner

/-- The results that an event brings. -/
def Event.results? : Event → Option SearchResults
  | .searchResults r => some r
  | _ => none

/-- The search results that come in with a report, if it is of the newest socket. -/
def Session.arrival? (s : Session) : Session.Op → Option SearchResults
  | .receive e =>
    match s.link.inbound? e with
    | some (.frame text) => (Event.ofFrame? text).bind Event.results?
    | some (.connection _) => none
    | none => none
  | .connect | .reconnect | .send _ | .listen _ | .vanish | .act _ => none

namespace Console

/-- The results that an item lists. -/
def Item.results? : Item → Option SearchResults
  | .results r => some r
  | _ => none

namespace Screen

/-- A screen before anything has happened. -/
def new (now : Moment) (url : String) (maxGain : Float) (noticeLifetime : Span) : Screen :=
  { session := Session.new now url (Deck.new maxGain noticeLifetime) }

/-- What can happen between two views. -/
inductive Op where
  /-- The user types a line. -/
  | line (text : String)
  /-- Something else happens to the session. -/
  | session (op : Session.Op)
  deriving Repr

/-- The screen after one turn. A line that is no order changes nothing, and the program ends with
the order to quit. -/
def turn (now : Moment) (s : Screen) : Op → Screen
  | .line text =>
    match Order.parse text with
    | .ok .quit => s
    | .ok o => s.order now o
    | .error _ => s
  | .session op => s.step now op

/-- What is printed in one turn. -/
def turnItems (now : Moment) (s : Screen) : Op → List Item
  | .line text =>
    match Order.parse text with
    | .ok .quit => []
    | .ok o => s.orderItems now o
    | .error _ => []
  | .session op => s.stepItems now op

/-- The screen after a history. -/
def run (s : Screen) (history : List (Moment × Op)) : Screen :=
  history.foldl (fun s entry => s.turn entry.1 entry.2) s

/-- Everything that a history prints. -/
def printed (s : Screen) : List (Moment × Op) → List Item
  | [] => []
  | (now, op) :: rest => s.turnItems now op ++ (s.turn now op).printed rest

/-- The listings of search results that a history prints, in order. -/
def listings (s : Screen) (history : List (Moment × Op)) : List SearchResults :=
  (s.printed history).filterMap Item.results?

def arrival? (s : Screen) : Op → Option SearchResults
  | .line _ => none
  | .session op => s.session.arrival? op

/-- The search results that come in during a history, in order. -/
def arrivals (s : Screen) : List (Moment × Op) → List SearchResults
  | [] => []
  | (now, op) :: rest => (s.arrival? op).toList ++ (s.turn now op).arrivals rest

end Screen

end Console

end Tuner
