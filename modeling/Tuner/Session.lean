import Tuner.Deck.Inbound
import Tuner.Deck.Intent
import Tuner.Hub

/-!
# Sessions

A session joins the link, the hub and the deck. The deck follows every kind of event and every
change of the connection; intents of the user change the deck and send their commands over the link.
-/

namespace Tuner

/-- A link with a deck that follows it. -/
structure Session where
  hub : Hub Deck
  deck : Deck

namespace Session

/-- The subscriptions of a deck: all kinds of event, and the connection. -/
def handlers : List (Handler Deck) :=
  EventKind.all.map (.event · Deck.apply) ++ [.connection Deck.setConnected]

/-- A session before anything has happened. -/
def new (now : Moment) (url : String) (deck : Deck) : Session :=
  let hub : Hub Deck := { link := { url } }
  { hub := handlers.foldl (fun h handler => h.subscribe handler) hub
    deck := handlers.foldl (fun d handler => hub.greet now handler d) deck }

def link (s : Session) : Link :=
  s.hub.link

def modifyLink (change : Link → Link) (s : Session) : Session :=
  { s with hub := { s.hub with link := change s.hub.link } }

/-- Whether the player is connected. -/
def isConnected (s : Session) : Bool :=
  s.link.isLive

def receive (now : Moment) (e : SocketEvent) (s : Session) : Session :=
  { hub := s.hub.receive e, deck := s.hub.follow now e s.deck }

def act (now : Moment) (intent : Intent) (s : Session) : Session :=
  let o := s.deck.perform now intent
  { hub := match o.command with
      | some c => s.hub.sendCommand c
      | none => s.hub
    deck := o.deck }

def succeeds (now : Moment) (intent : Intent) (s : Session) : Bool :=
  (s.deck.perform now intent).verdict.settle s.hub.canSend

/-- The session after some intents, each of which is tried only if the ones before it succeed. -/
def actAll (now : Moment) : List Intent → Session → Session
  | [], s => s
  | i :: rest, s => if s.succeeds now i then actAll now rest (s.act now i) else s.act now i

def allSucceed (now : Moment) : List Intent → Session → Bool
  | [], _ => true
  | i :: rest, s => s.succeeds now i && allSucceed now rest (s.act now i)

/-- The session with one more notice. -/
def notify (now : Moment) (message : String) (severity : Severity) (s : Session) : Session :=
  { s with deck := s.deck.notify now message severity }

/-! ## Runs -/

/-- What can happen to a session. -/
inductive Op where
  | connect
  | reconnect
  | send (frame : String)
  | listen (label : String)
  | vanish
  | receive (e : SocketEvent)
  | act (intent : Intent)
  deriving Repr

/-- The session after one thing has happened to it. -/
def step (now : Moment) (s : Session) : Op → Session
  | .connect => s.modifyLink .connect
  | .reconnect => s.modifyLink .reconnect
  | .send frame => s.modifyLink (.send frame)
  | .listen label => s.modifyLink (.listen label)
  | .vanish => s.modifyLink .vanish
  | .receive e => s.receive now e
  | .act intent => s.act now intent

/-- The session after a run of things, each at its moment. -/
def run (s : Session) (ops : List (Moment × Op)) : Session :=
  ops.foldl (fun s op => s.step op.1 op.2) s

end Session

end Tuner
