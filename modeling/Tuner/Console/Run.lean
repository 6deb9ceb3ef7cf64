import Tuner.Console.View
import Tuner.Session

/-!
# Running orders

An order becomes intents of the session, or shows something. Orders that need the player and find
it not connected say so in a notice. Orders on stations go through the dialogs, and leave them as
they found them.
-/

namespace Tuner.Console

/-- What comes of an order. -/
structure Execution where
  session : Session
  /-- What is printed at once. -/
  printed : List Item := []
  /-- Whether the status is to be printed in any case. -/
  forced : Bool := false

/-- The intents of an order that needs the player, each to be tried only if the ones before it
succeed. -/
def Order.intents? : Order → Option (List Intent)
  | .toggle => some [.togglePlayback]
  | .next => some [.skip]
  | .love => some [.love]
  | .ban => some [.ban]
  | .tired => some [.snooze]
  | .explain => some [.explain]
  | .upcoming => some [.upcoming]
  | .station id => some [.changeStation id]
  | .volume percent => some [.setGain percent]
  | .search text => some [.search text]
  | .genres => some [.requestGenres]
  | .create .fromSong =>
    some [.cancel .createStation, .chooseSource .song, .confirm .createStation]
  | .create .fromArtist =>
    some [.cancel .createStation, .chooseSource .artist, .confirm .createStation]
  | .create (.fromGenre id) =>
    some [.cancel .createStation, .chooseSource .genre, .chooseItem .createStation id,
      .confirm .createStation]
  | .create (.fromSearch id) =>
    some [.cancel .createStation, .chooseSource .search, .chooseItem .createStation id,
      .confirm .createStation]
  | .yes => some [.acceptNewStation]
  | .delete id => some [.chooseStation .delete id, .confirm .delete]
  | .rename id name => some [.chooseStation .rename id, .setName name, .confirm .rename]
  | .seeds id => some [.cancel .seeds, .chooseStation .seeds id]
  | .unseed id => some [.chooseItem .seeds id, .confirm .seeds]
  | .quickMix ids => some [.setQuickMix ids]
  | .stations | .no | .cancel | .reconnect | .status | .help | .quit => none

/-- The session with a notice that a command was dropped, if it was and the link is not live. -/
def reportDropped (now : Moment) (succeeded : Bool) (s : Session) : Session :=
  if !succeeded && !s.isConnected then s.notify now "Not connected, command dropped" .error else s

/-- The session with all dialogs returned to their start and no station asked for. -/
def cancelAll (now : Moment) (s : Session) : Session :=
  (s.deck.flows.active.foldl (fun s dialog => s.act now (.cancel dialog)) s).act now .cancelCreation

/-- What is printed when the intents of an order have been tried. -/
def Order.echo (succeeded : Bool) : Order → List Item
  | .create .fromSong => if succeeded then [.creating] else []
  | _ => []

def execute (now : Moment) (o : Order) (s : Session) : Execution :=
  match o.intents? with
  | some intents =>
    let succeeded := s.allSucceed now intents
    { session := reportDropped now succeeded (s.actAll now intents)
      printed := o.echo succeeded }
  | none =>
    match o with
    | .no => { session := s.act now .dismissNewStation }
    | .cancel =>
      { session := cancelAll now s
        printed := s.deck.flows.active.map .cancelled }
    | .reconnect => { session := s.modifyLink .reconnect }
    | .stations => { session := s, printed := [.stations s.deck.stationId s.deck.stations] }
    | .help => { session := s, printed := [.help] }
    | _ => { session := s, forced := true }

/-- A session with the view of it. -/
structure Screen where
  session : Session
  view : View := {}

namespace Screen

/-- What is printed after a change of the session. -/
def refreshItems (now : Moment) (force : Bool) (s : Screen) : List Item :=
  s.view.items now force s.session.deck

/-- The screen after a change of the session is shown. -/
def refresh (now : Moment) (s : Screen) : Screen :=
  { session := { s.session with deck := View.settle s.session.deck }
    view := s.view.keys now s.session.deck }

def order (now : Moment) (o : Order) (s : Screen) : Screen :=
  { s with session := (execute now o s.session).session }.refresh now

/-- What is printed for an order. -/
def orderItems (now : Moment) (o : Order) (s : Screen) : List Item :=
  let e := execute now o s.session
  e.printed ++ { s with session := e.session }.refreshItems now e.forced

/-- The screen after something else has happened to the session. -/
def step (now : Moment) (op : Session.Op) (s : Screen) : Screen :=
  { s with session := s.session.step now op }.refresh now

/-- What is printed when something else has happened to the session. -/
def stepItems (now : Moment) (op : Session.Op) (s : Screen) : List Item :=
  { s with session := s.session.step now op }.refreshItems now false

end Screen

end Tuner.Console
