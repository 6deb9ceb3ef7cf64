import Tuner.Command

/-!
# The link to the player

One socket at a time connects to the player. Sockets are numbered in the order in which they are
opened, and what a socket reports carries its number: a report of a socket that was replaced is
passed over, so that two live sockets can never take part at once. After a close nothing is opened
until the user asks for it. As soon as a socket is open, a query for a snapshot is sent on it.

`Link` holds the sockets with the frames that were put on them. What an operation answers is a
function beside the one that gives the next state: `canSend` beside `send`, `inbound?` and `heard`
beside `receive`.
-/

namespace Tuner

inductive Phase where
  | closed
  | connecting
  | live
  deriving Repr, DecidableEq

structure Socket where
  /-- Its number, counted from one. -/
  generation : Nat
  url : String
  /-- Whether the far end still takes frames. -/
  isUp : Bool := true
  /-- The frames that were put on it, oldest first. -/
  frames : List String := []
  deriving Repr, DecidableEq

inductive Report where
  | opened
  | frame (text : String)
  | failed (message : String)
  | closed
  deriving Repr, DecidableEq

/-- A report with the number of its socket. -/
structure SocketEvent where
  generation : Nat
  report : Report
  deriving Repr, DecidableEq

/-- What a report means to those above the link. -/
inductive Inbound where
  | connection (isLive : Bool)
  | frame (text : String)
  deriving Repr, DecidableEq

/-- The link and all sockets it has opened. -/
structure Link where
  url : String
  /-- The number of the newest socket, zero before the first. It has no bound here: a link that
  runs through 2^64 sockets is out of scope. -/
  generation : Nat := 0
  phase : Phase := .closed
  /-- The number of the socket that frames are put on. -/
  held : Option Nat := none
  /-- Who hears of changes of the connection, in the order of their subscription. -/
  listeners : List String := []
  sockets : List Socket := []
  deriving Repr, DecidableEq

namespace Link

/-- Whether frames can be sent and received. -/
def isLive (l : Link) : Bool :=
  l.phase == .live

def isConnecting (l : Link) : Bool :=
  l.phase == .connecting

/-! ## Opening -/

/-- The link with a new socket in place of the one before. -/
def connect (l : Link) : Link :=
  -- Listeners hear nothing of this, not even when the socket before was live.
  { l with
    generation := l.generation + 1
    phase := .connecting
    held := some (l.generation + 1)
    sockets := l.sockets ++ [{ generation := l.generation + 1, url := l.url }] }

/-- The link with a new socket if it was closed, and else as it was. -/
def reconnect (l : Link) : Link :=
  match l.phase with
  | .closed => l.connect
  | .connecting => l
  | .live => l

theorem reconnect_of_closed {l : Link} (h : l.phase = .closed) : l.reconnect = l.connect := by
  rw [reconnect, h]

theorem reconnect_of_ne_closed {l : Link} (h : l.phase ≠ .closed) : l.reconnect = l := by
  unfold reconnect
  cases hphase : l.phase with
  | closed => exact absurd hphase h
  | connecting => rfl
  | live => rfl

/-! ## Sending -/

def isUp (l : Link) (generation : Nat) : Bool :=
  l.sockets.any fun s => s.generation == generation && s.isUp

/-- Whether a frame that is sent now reaches a socket. -/
def canSend (l : Link) : Bool :=
  l.isLive && l.held.any l.isUp

def put (generation : Nat) (frame : String) (l : Link) : Link :=
  { l with
    sockets := l.sockets.map fun s =>
      if s.generation = generation then { s with frames := s.frames ++ [frame] } else s }

/-- The link after a frame is sent. The frame is dropped if it cannot be sent. -/
def send (frame : String) (l : Link) : Link :=
  match l.held with
  | some generation => if l.canSend then l.put generation frame else l
  | none => l

/-! ## Receiving -/

/-- Whether a report comes from the newest socket. -/
def isCurrent (l : Link) (e : SocketEvent) : Bool :=
  e.generation == l.generation

/-- The link after a report. A socket that opened is asked for a snapshot at once. -/
def receive (e : SocketEvent) (l : Link) : Link :=
  if l.isCurrent e then
    match e.report with
    -- The link is live first: what is sent while a socket is being opened is dropped.
    | .opened => { l with phase := .live }.send Command.query.frame
    | .frame _ => l
    | .failed _ => l
    | .closed => { l with phase := .closed, held := none }
  else l

/-- What a report means to those above the link. -/
def inbound? (l : Link) (e : SocketEvent) : Option Inbound :=
  if l.isCurrent e then
    match e.report with
    | .opened => some (.connection true)
    | .frame text => some (.frame text)
    | .failed _ => none
    | .closed => some (.connection false)
  else none

/-- What the listeners hear at a report, in the order of their subscription. -/
def heard (l : Link) (e : SocketEvent) : List (String × Bool) :=
  match l.inbound? e with
  | some (.connection isLive) => l.listeners.map (·, isLive)
  | _ => []

/-! ## Listening -/

/-- The link with one more listener. It hears at once whether the link is live. -/
def listen (label : String) (l : Link) : Link :=
  { l with listeners := l.listeners ++ [label] }

/-! ## Runs -/

/-- The link after the far ends of all sockets so far have vanished. -/
def vanish (l : Link) : Link :=
  { l with sockets := l.sockets.map fun s => { s with isUp := false } }

def lose (generation : Nat) (l : Link) : Link :=
  { l with
    sockets := l.sockets.map fun s =>
      if s.generation = generation then { s with isUp := false } else s }

/-- What can happen to a link. -/
inductive Op where
  | connect
  | reconnect
  | send (frame : String)
  | listen (label : String)
  | receive (e : SocketEvent)
  | vanish
  | lose (generation : Nat)
  deriving Repr, DecidableEq

def step (l : Link) : Op → Link
  | .connect => l.connect
  | .reconnect => l.reconnect
  | .send frame => l.send frame
  | .listen label => l.listen label
  | .receive e => l.receive e
  | .vanish => l.vanish
  | .lose generation => l.lose generation

/-- What the listeners hear while one thing happens. -/
def heardAt (l : Link) : Op → List (String × Bool)
  | .listen label => [(label, l.isLive)]
  | .receive e => l.heard e
  | _ => []

def run (l : Link) (ops : List Op) : Link :=
  ops.foldl step l

/-- What every step keeps is kept by every run. -/
theorem run_invariant (Holds : Link → Prop)
    (hstep : ∀ (l : Link) (op : Op), Holds l → Holds (l.step op)) {l : Link} (h : Holds l)
    (ops : List Op) : Holds (l.run ops) := by
  induction ops generalizing l with
  | nil => exact h
  | cons op rest ih => exact ih (hstep l op h)

end Link

end Tuner
