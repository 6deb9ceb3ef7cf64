import Tuner.Console.History
import Tuner.Proofs.Link.Traffic

/-!
# The course of an order

An order is a list of intents, each of which is tried only if the ones before it succeed. Whether
one succeeds depends on the deck and on whether the link takes what is sent, and sending does not
change the latter. So what comes of an order can be said of the deck alone: `Deck.course` gives the
deck afterwards, the commands that are handed to the link and whether the last intent succeeded, and
the session does the same (`actAll_eq`). A link that is up puts each command on the socket it holds,
and one that is not live keeps nothing (`framesOn_handOver`, `handOver_of_not_canSend`).
-/

namespace Tuner

/-! ## Commands on the link -/

namespace Link

variable {l : Link} {frame : String} {generation : Nat}

/-- A frame on a socket does not reach for its far end. -/
theorem isUp_put (other : Nat) : (l.put other frame).isUp generation = l.isUp generation := by
  rw [put, isUp, List.any_map, isUp]
  congr 1
  funext s
  simp only [Function.comp_apply]
  split <;> rfl

/-- To send a frame neither opens nor closes the way for the next one. -/
@[simp] theorem canSend_send : (l.send frame).canSend = l.canSend := by
  unfold send
  split
  · next held hheld =>
    split
    · have hup : (l.put held frame).isUp held = l.isUp held := isUp_put held
      show (l.isLive && l.held.any (l.put held frame).isUp) = (l.isLive && l.held.any l.isUp)
      rw [hheld, Option.any_some, Option.any_some, hup]
    · rfl
  · rfl

@[simp] theorem held_send : (l.send frame).held = l.held :=
  (worn_send frame).held

/-- What cannot be sent leaves the link as it is. -/
theorem send_of_not_canSend (h : l.canSend = false) : l.send frame = l := by
  unfold send
  cases l.held with
  | none => rfl
  | some held => rw [h]; rfl

/-- The link after some commands are handed to it. -/
def handOver (commands : List Command) (l : Link) : Link :=
  commands.foldl (fun l c => l.send c.frame) l

variable {commands : List Command}

@[simp] theorem handOver_nil : l.handOver [] = l := rfl

@[simp] theorem handOver_cons (c : Command) :
    l.handOver (c :: commands) = (l.send c.frame).handOver commands := rfl

/-- Commands may be handed over in two parts. -/
theorem handOver_append (more : List Command) :
    l.handOver (commands ++ more) = (l.handOver commands).handOver more :=
  List.foldl_append

/-- So the first command decides for all of them. Induction on the commands. -/
@[simp] theorem canSend_handOver : (l.handOver commands).canSend = l.canSend := by
  induction commands generalizing l with
  | nil => rfl
  | cons c rest ih => rw [handOver_cons, ih, canSend_send]

/-- **A link that is up puts the commands on the socket that it holds**, in order, and nothing on
any other. -/
theorem framesOn_handOver (h : l.canSend = true) :
    (l.handOver commands).framesOn generation = l.framesOn generation ++
      if l.held = some generation then commands.map Command.frame else [] := by
  induction commands generalizing l with
  | nil => simp
  | cons c rest ih =>
    rw [handOver_cons, ih (by rwa [canSend_send]), framesOn_send, held_send]
    -- the first frame goes where the others go
    by_cases hheld : l.held = some generation <;> simp [h, hheld]

/-- A link that takes nothing is the same link afterwards, however much is handed to it. -/
theorem handOver_of_not_canSend (h : l.canSend = false) : l.handOver commands = l := by
  induction commands with
  | nil => rfl
  | cons c rest ih => rw [handOver_cons, send_of_not_canSend h, ih]

end Link

/-! ## Intents on the deck -/

/-- What comes of some intents on a deck. -/
structure Course where
  deck : Deck
  /-- What is handed to the link, in order. -/
  commands : List Command
  /-- Whether all intents succeeded. -/
  succeeded : Bool

namespace Deck

variable {now : Moment} {up : Bool} {i : Intent} {rest : List Intent} {d : Deck}

/-- The course of some intents, each of which is tried only if the ones before it succeed. `up` says
whether the link takes what is sent. -/
def course (now : Moment) (up : Bool) : List Intent → Deck → Course
  | [], d => ⟨d, [], true⟩
  | i :: rest, d =>
    let o := d.perform now i
    if o.verdict.settle up then
      let c := course now up rest o.deck
      ⟨c.deck, o.command.toList ++ c.commands, c.succeeded⟩
    else ⟨o.deck, o.command.toList, false⟩

/-- An intent that succeeds is followed by the others. -/
theorem course_of_succeeds (h : (d.perform now i).verdict.settle up = true) :
    d.course now up (i :: rest) =
      let c := (d.perform now i).deck.course now up rest
      ⟨c.deck, (d.perform now i).command.toList ++ c.commands, c.succeeded⟩ := by
  rw [course, if_pos h]

/-- An intent that fails is the last one tried. Its command was handed over all the same. -/
theorem course_of_fails (h : (d.perform now i).verdict.settle up = false) :
    d.course now up (i :: rest) =
      ⟨(d.perform now i).deck, (d.perform now i).command.toList, false⟩ := by
  rw [course, if_neg (by simp [h])]

theorem course_singleton :
    d.course now up [i] = ⟨(d.perform now i).deck, (d.perform now i).command.toList,
      (d.perform now i).verdict.settle up⟩ := by
  cases h : (d.perform now i).verdict.settle up with
  | true =>
    rw [course_of_succeeds h]
    simp [course]
  | false => rw [course_of_fails h]

end Deck

/-! ## Intents of a session -/

namespace Session

variable {now : Moment} {s : Session}

/-- What an intent does to the link is to hand its command over, if it has one. -/
theorem link_act (now : Moment) (s : Session) (i : Intent) :
    (s.act now i).link = s.link.handOver (s.deck.perform now i).command.toList := by
  unfold act
  dsimp only
  cases (s.deck.perform now i).command <;> rfl

/-- **A session goes the course of its deck.** -/
theorem actAll_eq (now : Moment) (s : Session) (intents : List Intent) :
    let course := s.deck.course now s.link.canSend intents
    (s.actAll now intents).deck = course.deck ∧
      (s.actAll now intents).link = s.link.handOver course.commands ∧
      s.allSucceed now intents = course.succeeded := by
  induction intents generalizing s with
  | nil => exact ⟨rfl, rfl, rfl⟩
  | cons i rest ih =>
    have hlink := link_act now s i
    have hsend : (s.act now i).link.canSend = s.link.canSend := by
      rw [hlink, Link.canSend_handOver]
    have hsucceeds : s.succeeds now i = (s.deck.perform now i).verdict.settle s.link.canSend := rfl
    dsimp only
    rw [actAll, allSucceed]
    -- the deck and the session ask the same question, as the link answers it the same way all along
    cases h : (s.deck.perform now i).verdict.settle s.link.canSend with
    | true =>
      obtain ⟨ihdeck, ihlink, ihsucceed⟩ := ih (s.act now i)
      rw [hsend] at ihdeck ihlink ihsucceed
      rw [hsucceeds, h, if_pos rfl, Bool.true_and, Deck.course_of_succeeds h]
      refine ⟨ihdeck, ?_, ihsucceed⟩
      rw [ihlink, hlink, ← Link.handOver_append]
      rfl
    | false =>
      rw [hsucceeds, h, if_neg (by decide), Bool.false_and, Deck.course_of_fails h]
      exact ⟨rfl, hlink, rfl⟩

end Session

/-! ## Orders of the console -/

namespace Console

variable {now : Moment} {s : Session} {o : Order}

/-- An order that needs the player tries its intents, and a notice follows if it was dropped. -/
theorem execute_of_intents {intents : List Intent} (h : o.intents? = some intents) :
    (execute now o s).session =
      reportDropped now (s.allSucceed now intents) (s.actAll now intents) := by
  unfold execute
  rw [h]

theorem flows_reportDropped (succeeded : Bool) :
    (reportDropped now succeeded s).deck.flows = s.deck.flows := by
  unfold reportDropped
  split <;> rfl

theorem hub_reportDropped (succeeded : Bool) :
    (reportDropped now succeeded s).hub = s.hub := by
  unfold reportDropped
  split <;> rfl

end Console

end Tuner
