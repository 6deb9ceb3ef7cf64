import Tuner.Event.Reader
import Tuner.Link
import Tuner.Moment

/-!
# The hub

The hub stands between the link and those who follow the events. A subscription is a handler for
one kind of event or for changes of the connection; subscriptions are numbered as they are made and
run in that order. A handler changes the follower's own state and cannot reach the hub. Frames that
carry no event, an unknown one or one that does not fit reach no handler.
-/

namespace Tuner

/-- What a follower with state `σ` does when something is delivered at a moment. -/
inductive Handler (σ : Type) where
  | event (kind : EventKind) (run : Moment → Event → σ → σ)
  | connection (run : Moment → Bool → σ → σ)

/-- A handler with its number. -/
structure Subscription (σ : Type) where
  id : Nat
  handler : Handler σ

/-- The link with the subscriptions to what it delivers. -/
structure Hub (σ : Type) where
  link : Link
  /-- In the order in which they were made. -/
  subscriptions : List (Subscription σ) := []
  /-- How many subscriptions were ever made, the number of the last one. It has no bound here: a
  hub that runs through 2^64 subscriptions is out of scope. -/
  issued : Nat := 0

/-- The event that a frame carries, if it carries one that is known and fits. -/
def Event.ofFrame? (text : String) : Option Event :=
  match Packet.decode text with
  | .ok (.event e) =>
    match Event.ofEnvelope e with
    | .ok event => event
    | .error _ => none
  | _ => none

namespace Handler

variable {σ : Type}

/-- What a handler does with an event, if it is for this kind of event. -/
def onEvent? (kind : EventKind) : Handler σ → Option (Moment → Event → σ → σ)
  | .event k run => if k = kind then some run else none
  | .connection _ => none

/-- What a handler does with a change of the connection. -/
def onConnection? : Handler σ → Option (Moment → Bool → σ → σ)
  | .event _ _ => none
  | .connection run => some run

end Handler

namespace Hub

variable {σ : Type}

/-! ## Subscribing -/

/-- The number of the next subscription. -/
def nextId (h : Hub σ) : Nat :=
  h.issued + 1

/-- The hub with one more subscription. -/
def subscribe (handler : Handler σ) (h : Hub σ) : Hub σ :=
  { h with
    subscriptions := h.subscriptions ++ [⟨h.nextId, handler⟩]
    issued := h.nextId }

/-- The state of a follower who subscribes: a handler for the connection runs at once. -/
def greet (now : Moment) (handler : Handler σ) (h : Hub σ) (follower : σ) : σ :=
  match handler.onConnection? with
  | some run => run now h.link.isLive follower
  | none => follower

/-- Whether a subscription exists. -/
def has (id : Nat) (h : Hub σ) : Bool :=
  h.subscriptions.any (·.id == id)

/-- The hub without a subscription. -/
def off (id : Nat) (h : Hub σ) : Hub σ :=
  { h with subscriptions := h.subscriptions.filter (·.id ≠ id) }

/-! ## Delivering -/

def eventHandlers (kind : EventKind) (h : Hub σ) : List (Moment → Event → σ → σ) :=
  h.subscriptions.filterMap (·.handler.onEvent? kind)

/-- The handlers for changes of the connection, in order. -/
def connectionHandlers (h : Hub σ) : List (Moment → Bool → σ → σ) :=
  h.subscriptions.filterMap (·.handler.onConnection?)

/-- How many handlers an event of a kind runs. -/
def handlerCount (kind : EventKind) (h : Hub σ) : Nat :=
  (h.eventHandlers kind).length

def dispatch (now : Moment) (e : Event) (h : Hub σ) (follower : σ) : σ :=
  (h.eventHandlers e.kind).foldl (fun s run => run now e s) follower

/-- The follower after a frame. -/
def deliver (now : Moment) (text : String) (h : Hub σ) (follower : σ) : σ :=
  match Event.ofFrame? text with
  | some e => h.dispatch now e follower
  | none => follower

/-- How many handlers a frame runs. -/
def deliveryCount (text : String) (h : Hub σ) : Nat :=
  match Event.ofFrame? text with
  | some e => h.handlerCount e.kind
  | none => 0

/-- The follower after a change of the connection. -/
def announce (now : Moment) (isLive : Bool) (h : Hub σ) (follower : σ) : σ :=
  h.connectionHandlers.foldl (fun s run => run now isLive s) follower

def receive (e : SocketEvent) (h : Hub σ) : Hub σ :=
  { h with link := h.link.receive e }

def follow (now : Moment) (e : SocketEvent) (h : Hub σ) (follower : σ) : σ :=
  match h.link.inbound? e with
  | some (.frame text) => h.deliver now text follower
  | some (.connection isLive) => h.announce now isLive follower
  | none => follower

/-! ## Sending -/

/-- Whether what is sent now reaches the player. -/
def canSend (h : Hub σ) : Bool :=
  h.link.canSend

/-- The hub after an event is sent. It is dropped while the link is not live. -/
def emit (e : Envelope) (h : Hub σ) : Hub σ :=
  { h with link := h.link.send e.encode }

def sendCommand (c : Command) (h : Hub σ) : Hub σ :=
  h.emit c.toEnvelope

end Hub

end Tuner
