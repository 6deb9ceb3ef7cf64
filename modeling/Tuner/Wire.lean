import Tuner.Link

/-!
# Below the link

Every socket is served by a task of its own. All tasks report on one channel, and a report waits
there until it is handed to the link, which may be long after its socket was replaced. `Wire` is a
link with that channel, and `Wire.Step` is all that can happen to the two: a call from above, a
report of a socket, and the handing over of the oldest report.
-/

namespace Tuner

def Report.isFrame : Report → Bool
  | opened => false
  | frame _ => true
  | failed _ => false
  | closed => false

/-- What a socket keeps to: it opens once at most, its frames come after that, and nothing comes
after it has closed. -/
structure Proper (reports : List Report) : Prop where
  opened : reports.count .opened ≤ 1
  frames : ∀ r ∈ reports.takeWhile (· ≠ .opened), r.isFrame = false
  closed : .closed ∉ reports.dropLast

instance : DecidablePred Proper := fun reports =>
  decidable_of_iff
    (reports.count .opened ≤ 1 ∧ (∀ r ∈ reports.takeWhile (· ≠ .opened), r.isFrame = false) ∧
      .closed ∉ reports.dropLast)
    ⟨fun ⟨opened, frames, closed⟩ => ⟨opened, frames, closed⟩,
      fun h => ⟨h.opened, h.frames, h.closed⟩⟩

/-- A link with the channel that its sockets report on. -/
structure Wire where
  link : Link
  /-- The reports that wait, oldest first. -/
  channel : List SocketEvent := []
  /-- The reports that the link has handled, oldest first. -/
  handled : List SocketEvent := []
  deriving Repr

namespace Wire

/-- What a socket has reported so far, whether it was handled or waits. -/
def reports (generation : Nat) (w : Wire) : List Report :=
  ((w.handled ++ w.channel).filter (·.generation == generation)).map (·.report)

/-- All that can happen. A socket that was replaced may still report. -/
inductive Step (w : Wire) : Wire → Prop where
  | call (op : Link.Op) (hop : ∀ e, op ≠ .receive e) :
      Step w { w with link := w.link.step op }
  | report (s : Socket) (r : Report) (hs : s ∈ w.link.sockets)
      (hproper : Proper (w.reports s.generation ++ [r])) :
      Step w { w with channel := w.channel ++ [⟨s.generation, r⟩] }
  | deliver (e : SocketEvent) (rest : List SocketEvent) (hchannel : w.channel = e :: rest) :
      Step w { link := w.link.receive e, channel := rest, handled := w.handled ++ [e] }

/-- The wires that can come up, from one without a socket. -/
inductive Reachable (url : String) : Wire → Prop where
  | start : Reachable url { link := { url } }
  | step {w w' : Wire} (h : Reachable url w) (hstep : w.Step w') : Reachable url w'

/-- A socket was opened, and the close of the newest one has not been handled. -/
def AwaitsClose (w : Wire) : Prop :=
  ∃ s, w.link.sockets.getLast? = some s ∧ ⟨s.generation, .closed⟩ ∉ w.handled

end Wire

end Tuner
