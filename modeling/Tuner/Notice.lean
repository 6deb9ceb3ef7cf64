import Tuner.Moment

/-!
# Notices

Short messages for the user, such as the explanation of a song. They are shown once and expire, and
are never part of the player's state. A queue holds at most eight of them, all with different
texts: a message that comes again moves to the end, and the oldest gives way to a ninth.

A notice expires one lifetime after it was pushed, and that moment always exists here. A lifetime so
long that no clock can hold its end is out of scope.
-/

namespace Tuner

/-- How serious a notice is. -/
inductive Severity where
  | info
  | success
  | warning
  | error
  deriving Repr, DecidableEq

/-- A message to the user, until it expires. -/
structure Notice where
  message : String
  severity : Severity
  expires : Moment
  deriving Repr, DecidableEq

/-- The notices that wait to be shown, oldest first. -/
structure Notices where
  queue : List Notice
  /-- How long a notice waits. -/
  lifetime : Span
  deriving Repr

namespace Notices

/-- How many notices may wait. -/
def capacity : Nat := 8

def empty (lifetime : Span) : Notices :=
  ⟨[], lifetime⟩

/-- The queue with one more notice, behind the others and without an older one of its text. Its
expiry is a moment of any size: a lifetime that ends after the last moment of a clock is out of
scope. -/
def push (now : Moment) (message : String) (severity : Severity) (n : Notices) : Notices :=
  let queue := n.queue.filter (·.message ≠ message) ++ [⟨message, severity, now + n.lifetime⟩]
  { n with queue := queue.drop (queue.length - capacity) }

def expire (now : Moment) (n : Notices) : Notices :=
  { n with queue := n.queue.filter fun t => now < t.expires }

def anyExpired (now : Moment) (n : Notices) : Bool :=
  n.queue.any fun t => t.expires ≤ now

/-- The notices once all are shown. -/
def drain (n : Notices) : Notices :=
  { n with queue := [] }

/-! ## Runs -/

/-- What can happen to a queue. -/
inductive Op where
  | push (now : Moment) (message : String) (severity : Severity)
  | expire (now : Moment)
  | drain
  deriving Repr, DecidableEq

def step (n : Notices) : Op → Notices
  | .push now message severity => n.push now message severity
  | .expire now => n.expire now
  | .drain => n.drain

/-- The queue after a history. -/
def run (n : Notices) (ops : List Op) : Notices :=
  ops.foldl step n

end Notices

end Tuner
