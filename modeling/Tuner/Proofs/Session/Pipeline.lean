import Tuner.Deck.History
import Tuner.Proofs.Link.Numbering
import Tuner.Session

/-!
# What reaches the deck of a session

Between a socket and the deck stand the check of the socket's number, the decoder of frames, the
reader of payloads and the subscriptions of the hub. Seen from outside they do one thing: some
reports are passed over, and every other report is one operation on the deck.

* **what is passed over** — `Unfit` for the text of a frame, `PassedOver` for what happens to a
  session, and `heeded` for the run without it;
* **how a session is wired** — `Wired` holds of every session that can come up: the number of the
  newest socket is the count of sockets, and each kind of report has one handler;
* **one step** — `step_passedOver` and `deck_step`;
* **runs** — `heeded_suffices`.
-/

namespace Tuner

/-- A frame without an event that is known and fits. -/
inductive Unfit (text : String) : Prop where
  | other (h : Packet.decode text = .ok .other)
  | malformed (fault : FrameError) (h : Packet.decode text = .error fault)
  | unknown (e : Envelope) (h : Packet.decode text = .ok (.event e))
      (hname : EventKind.ofName? e.event = none)
  | misfit (e : Envelope) (fault : EventError) (h : Packet.decode text = .ok (.event e))
      (hpayload : Event.ofEnvelope e = .error fault)

/-- An envelope is passed over for its name alone. A known name with a payload that does not fit is
an error instead. -/
theorem Event.ofEnvelope_eq_none {e : Envelope} :
    Event.ofEnvelope e = .ok none ↔ EventKind.ofName? e.event = none := by
  unfold Event.ofEnvelope
  cases EventKind.ofName? e.event with
  | none => simp
  | some kind =>
    dsimp only
    split <;> simp

/-- The four ways for a frame to be unfit are those in which the hub finds no event in it. -/
theorem unfit_iff {text : String} : Unfit text ↔ Event.ofFrame? text = none := by
  constructor
  · intro h
    unfold Event.ofFrame?
    cases h with
    | other h => rw [h]
    | malformed fault h => rw [h]
    | unknown e h hname =>
      rw [h]
      dsimp only
      rw [Event.ofEnvelope_eq_none.mpr hname]
    | misfit e fault h hpayload =>
      rw [h]
      dsimp only
      rw [hpayload]
  · intro h
    unfold Event.ofFrame? at h
    -- each step that can end without an event is one of the four
    cases hpacket : Packet.decode text with
    | error fault => exact .malformed fault hpacket
    | ok packet =>
      cases packet with
      | other => exact .other hpacket
      | event e =>
        rw [hpacket] at h
        dsimp only at h
        cases hevent : Event.ofEnvelope e with
        | error fault => exact .misfit e fault hpacket hevent
        | ok event =>
          rw [hevent] at h
          dsimp only at h
          subst h
          exact .unknown e hpacket (Event.ofEnvelope_eq_none.mp hevent)

instance (text : String) : Decidable (Unfit text) :=
  decidable_of_iff ((Event.ofFrame? text).isNone = true)
    (by rw [Option.isNone_iff_eq_none, unfit_iff])

/-- The operation on the deck that a report of the newest socket stands for. -/
def Report.deckOp? : Report → Option Deck.Op
  | .opened => some (.connection true)
  | .frame text => (Event.ofFrame? text).map .event
  | .failed _ => none
  | .closed => some (.connection false)

namespace Session

variable {s : Session} {now : Moment} {op : Op}

/-! ## What is passed over -/

/-- What a session passes over: reports of sockets other than the newest, failures, and frames that
are unfit. -/
inductive PassedOver (s : Session) : Op → Prop where
  | stale (e : SocketEvent) (h : e.generation ≠ s.link.sockets.length) : PassedOver s (.receive e)
  | failed (generation : Nat) (message : String) :
      PassedOver s (.receive ⟨generation, .failed message⟩)
  | unfit (generation : Nat) (text : String) (h : Unfit text) :
      PassedOver s (.receive ⟨generation, .frame text⟩)

/-- Whether a report is passed over by a session with a number of sockets. -/
def passes (sockets : Nat) (e : SocketEvent) : Bool :=
  e.generation != sockets ||
    match e.report with
    | .opened => false
    | .frame text => decide (Unfit text)
    | .failed _ => true
    | .closed => false

/-- Whether a report is passed over can be decided from the count of sockets. -/
theorem passedOver_receive {e : SocketEvent} :
    s.PassedOver (.receive e) ↔ passes s.link.sockets.length e = true := by
  obtain ⟨generation, report⟩ := e
  constructor
  · intro h
    cases h with
    | stale _ h => simp [passes, h]
    | failed => simp [passes]
    | unfit _ _ h => simp [passes, h]
  · intro h
    -- A report of the newest socket can only be passed over for what it says.
    by_cases hstale : generation = s.link.sockets.length
    · subst hstale
      cases report with
      | opened => simp [passes] at h
      | frame text => exact .unfit _ text (by simpa [passes] using h)
      | failed message => exact .failed _ message
      | closed => simp [passes] at h
    · exact .stale _ hstale

instance (s : Session) : DecidablePred s.PassedOver := fun op =>
  match op with
  | .receive _ => decidable_of_iff _ passedOver_receive.symm
  | .connect | .reconnect | .send _ | .listen _ | .vanish | .act _ => isFalse (by rintro ⟨⟩)

/-- A run without what is passed over in it. -/
def heeded : Session → List (Moment × Op) → List (Moment × Op)
  | _, [] => []
  | s, (now, op) :: rest =>
    if s.PassedOver op then heeded (s.step now op) rest
    else (now, op) :: heeded (s.step now op) rest

/-! ## How a session is wired -/

/-- The operation on the link that one thing leads to. -/
def linkOp? (now : Moment) (s : Session) : Op → Option Link.Op
  | .connect => some .connect
  | .reconnect => some .reconnect
  | .send frame => some (.send frame)
  | .listen label => some (.listen label)
  | .vanish => some .vanish
  | .receive e => some (.receive e)
  | .act intent => (s.deck.perform now intent).command.map fun c => .send c.frame

/-- All that a session does to its link is one operation, or none. -/
theorem link_step (now : Moment) (s : Session) (op : Op) :
    (s.step now op).link = (s.linkOp? now op).elim s.link s.link.step := by
  cases op with
  | act intent =>
    show (s.act now intent).link = _
    unfold act linkOp?
    dsimp only
    cases (s.deck.perform now intent).command <;> rfl
  | _ => rfl

/-- The subscriptions are made once and for all. -/
theorem subscriptions_step (now : Moment) (s : Session) (op : Op) :
    (s.step now op).hub.subscriptions = s.hub.subscriptions := by
  cases op with
  | act intent =>
    show (s.act now intent).hub.subscriptions = _
    unfold act
    dsimp only
    cases (s.deck.perform now intent).command <;> rfl
  | _ => rfl

/-- The sockets are numbered, and the deck hears once of each event and of each change of the
connection. -/
structure Wired (s : Session) : Prop where
  numbered : s.link.Numbered
  events : ∀ kind, s.hub.eventHandlers kind = [Deck.apply]
  connection : s.hub.connectionHandlers = [Deck.setConnected]

/-- The subscriptions of a new session are one for each kind of event and one for the connection. -/
theorem wired_new (now : Moment) (url : String) (deck : Deck) : (new now url deck).Wired where
  numbered := Link.numbered_new url
  events kind := by cases kind <;> rfl
  connection := rfl

/-- Nothing adds a subscription or takes one away, and the link numbers its sockets. -/
theorem wired_step (now : Moment) (op : Op) (h : s.Wired) : (s.step now op).Wired := by
  have hsubscriptions := subscriptions_step now s op
  refine ⟨?_, fun kind => ?_, ?_⟩
  · rw [link_step]
    cases s.linkOp? now op with
    | none => exact h.numbered
    | some linkOp => exact Link.numbered_step linkOp h.numbered
  · rw [Hub.eventHandlers, hsubscriptions]
    exact h.events kind
  · rw [Hub.connectionHandlers, hsubscriptions]
    exact h.connection

/-! ## One step -/

/-- The operation on the deck that one thing stands for, if it is not passed over. -/
def deckOp? : Op → Option Deck.Op
  | .receive e => e.report.deckOp?
  | .act intent => some (.intent intent)
  | .connect | .reconnect | .send _ | .listen _ | .vanish => none

/-- Each report of the newest socket is one operation on the deck, or none. -/
theorem follow_eq (hs : s.Wired) (now : Moment) (e : SocketEvent) :
    s.hub.follow now e s.deck =
      if s.link.isCurrent e then e.report.deckOp?.elim s.deck (s.deck.step now) else s.deck := by
  unfold Hub.follow
  rw [show s.hub.link = s.link from rfl, Link.inbound?]
  cases s.link.isCurrent e with
  | false => rfl
  | true =>
    simp only [if_true]
    have hannounce : ∀ isLive,
        s.hub.announce now isLive s.deck = s.deck.setConnected now isLive := by
      intro isLive
      rw [Hub.announce, hs.connection]
      rfl
    cases e.report with
    | opened => exact hannounce true
    | closed => exact hannounce false
    | failed message => rfl
    | frame text =>
      -- The hub runs one handler for each kind of event, and it is the deck's own.
      show s.hub.deliver now text s.deck = _
      rw [Hub.deliver, Report.deckOp?]
      cases Event.ofFrame? text with
      | none => rfl
      | some event =>
        show s.hub.dispatch now event s.deck = s.deck.apply now event
        rw [Hub.dispatch, hs.events]
        rfl

/-- A report is passed over if it is not of the newest socket, or stands for nothing. -/
theorem passedOver_iff (hs : s.Wired) {e : SocketEvent} :
    s.PassedOver (.receive e) ↔ s.link.isCurrent e = false ∨ e.report.deckOp? = none := by
  have hcurrent : s.link.isCurrent e = false ↔ e.generation ≠ s.link.sockets.length := by
    rw [Link.isCurrent, hs.numbered.newest]
    simp
  rw [hcurrent]
  constructor
  · intro h
    cases h with
    | stale _ h => exact Or.inl h
    | failed => exact Or.inr rfl
    | unfit _ text h =>
      right
      rw [Report.deckOp?, unfit_iff.mp h]
      rfl
  · obtain ⟨generation, report⟩ := e
    rintro (h | h)
    · exact .stale _ h
    · cases report with
      | opened => cases h
      | closed => cases h
      | failed message => exact .failed _ message
      | frame text => exact .unfit _ text (unfit_iff.mpr (Option.map_eq_none_iff.mp h))

theorem link_passedOver (hs : s.Wired) {e : SocketEvent} (h : s.PassedOver (.receive e)) :
    s.link.receive e = s.link := by
  unfold Link.receive
  split
  · -- a report of the newest socket that stands for nothing is a frame or a failure
    rename_i hcurrent
    rcases (passedOver_iff hs).mp h with hstale | hnone
    · rw [hcurrent] at hstale
      cases hstale
    · cases hreport : e.report with
      | opened =>
        rw [hreport] at hnone
        cases hnone
      | closed =>
        rw [hreport] at hnone
        cases hnone
      | frame text => rfl
      | failed message => rfl
  · rfl

/-- What is passed over changes nothing. -/
theorem step_passedOver (hs : s.Wired) (h : s.PassedOver op) : s.step now op = s := by
  -- Nothing but a report is ever passed over.
  obtain ⟨e, rfl⟩ : ∃ e, op = .receive e := by cases h <;> exact ⟨_, rfl⟩
  have hlink : s.hub.receive e = s.hub := by
    rw [Hub.receive, show s.hub.link = s.link from rfl, link_passedOver hs h]
    rfl
  have hdeck : s.hub.follow now e s.deck = s.deck := by
    rw [follow_eq hs]
    rcases (passedOver_iff hs).mp h with hstale | hnone
    · rw [hstale]
      rfl
    · rw [hnone]
      split <;> rfl
  show ({ hub := s.hub.receive e, deck := s.hub.follow now e s.deck } : Session) = s
  rw [hlink, hdeck]

/-- **What is heeded is one operation on the deck, or none.** The link and the hub are not needed to
say which. -/
theorem deck_step (hs : s.Wired) (h : ¬ s.PassedOver op) :
    (s.step now op).deck = (deckOp? op).elim s.deck (s.deck.step now) := by
  cases op with
  | receive e =>
    have hcurrent : s.link.isCurrent e = true := by
      cases hcurrent : s.link.isCurrent e with
      | true => rfl
      | false => exact absurd ((passedOver_iff hs).mpr (Or.inl hcurrent)) h
    show s.hub.follow now e s.deck = _
    rw [follow_eq hs, if_pos hcurrent]
    rfl
  | act intent => rfl
  | _ => rfl

/-! ## Runs -/

/-- What is answered at once to one thing: whether an intent succeeds, and whether a frame is
sent. -/
def answer? (now : Moment) (s : Session) : Op → Option Bool
  | .act intent => some (s.succeeds now intent)
  | .send _ => some s.link.canSend
  | .connect | .reconnect | .listen _ | .vanish | .receive _ => none

/-- All that is answered in a run, in order. -/
def answers : Session → List (Moment × Op) → List Bool
  | _, [] => []
  | s, (now, op) :: rest => (s.answer? now op).toList ++ answers (s.step now op) rest

/-- The operations on the deck that a run stands for. -/
def deckOps (ops : List (Moment × Op)) : List (Moment × Deck.Op) :=
  ops.filterMap fun entry => (deckOp? entry.2).map (entry.1, ·)

/-- The first thing in a run stands for the first operation, if it stands for one. -/
theorem deckOps_cons (now : Moment) (op : Op) (rest : List (Moment × Op)) :
    deckOps ((now, op) :: rest) = ((deckOp? op).map (now, ·)).toList ++ deckOps rest := by
  rw [deckOps, List.filterMap_cons]
  cases deckOp? op <;> rfl

theorem run_heeded (hs : s.Wired) (ops : List (Moment × Op)) :
    s.run (s.heeded ops) = s.run ops ∧ s.answers (s.heeded ops) = s.answers ops := by
  induction ops generalizing s with
  | nil => exact ⟨rfl, rfl⟩
  | cons entry rest ih =>
    obtain ⟨now, op⟩ := entry
    have hrun : s.run ((now, op) :: rest) = (s.step now op).run rest := rfl
    by_cases h : s.PassedOver op
    · -- The run goes on from the same session, and nothing was answered.
      have hstep : s.step now op = s := step_passedOver hs h
      have hnone : s.answer? now op = none := by cases h <;> rfl
      rw [heeded, if_pos h, hrun, answers, hnone, hstep]
      exact ih hs
    · obtain ⟨ihrun, ihanswers⟩ := ih (wired_step now op hs)
      rw [heeded, if_neg h]
      exact ⟨ihrun, by rw [answers, answers, ihanswers]⟩

/-- The deck follows what is heeded, in order and as a deck on its own would. -/
theorem deck_run (hs : s.Wired) (ops : List (Moment × Op)) :
    (s.run ops).deck = s.deck.run (deckOps (s.heeded ops)) := by
  induction ops generalizing s with
  | nil => rfl
  | cons entry rest ih =>
    obtain ⟨now, op⟩ := entry
    have hrun : s.run ((now, op) :: rest) = (s.step now op).run rest := rfl
    rw [hrun, ih (wired_step now op hs)]
    by_cases h : s.PassedOver op
    · rw [heeded, if_pos h, step_passedOver hs h]
    · rw [heeded, if_neg h, deck_step hs h]
      rw [deckOps_cons]
      cases deckOp? op <;> rfl

theorem wired_run (hs : s.Wired) (ops : List (Moment × Op)) : (s.run ops).Wired := by
  induction ops generalizing s with
  | nil => exact hs
  | cons entry rest ih => exact ih (wired_step entry.1 entry.2 hs)

/-- A report that is heeded stands for an operation, and the deck goes through it. -/
theorem deckOp_of_heeded (hs : s.Wired) (now : Moment) {e : SocketEvent}
    (h : ¬ s.PassedOver (.receive e)) :
    ∃ op, e.report.deckOp? = some op ∧ (s.step now (.receive e)).deck = s.deck.step now op := by
  cases hop : e.report.deckOp? with
  | none => exact absurd ((passedOver_iff hs).mpr (Or.inr hop)) h
  | some op =>
    refine ⟨op, rfl, ?_⟩
    rw [deck_step hs h, deckOp?, hop]
    rfl

/-- **A session follows what it heeds, and nothing else.** Take any run of a new session, and leave
out the reports of replaced sockets, the failures and the unfit frames. What is left leads to the
same session, with the same deck, notices and frames on each socket, and every intent has the same
success. The deck goes through the operations that are left in order. Wherever the run stands, a
report that is not left out is one operation: a change of the connection, or the event in the
frame. -/
theorem heeded_suffices (now : Moment) (url : String) (deck : Deck) (ops : List (Moment × Op)) :
    let s := new now url deck
    s.run (s.heeded ops) = s.run ops ∧ s.answers (s.heeded ops) = s.answers ops ∧
      (s.run ops).deck = s.deck.run (deckOps (s.heeded ops)) ∧
      ∀ moment e, ¬ (s.run ops).PassedOver (.receive e) →
        ∃ op, e.report.deckOp? = some op ∧
          ((s.run ops).step moment (.receive e)).deck = (s.run ops).deck.step moment op := by
  intro s
  have hs : s.Wired := wired_new now url deck
  obtain ⟨hrun, hanswers⟩ := run_heeded hs ops
  exact ⟨hrun, hanswers, deck_run hs ops,
    fun moment _ h => deckOp_of_heeded (wired_run hs ops) moment h⟩

/-- A report of a socket that never was, one failure and one frame without an event are left out of
a run, and a list of stations is not. The longer list that comes next is an event on the deck, which
then shows it. -/
theorem heeded_suffices_stations :
    let s := new 0 "ws://player/ws" (Deck.new 6 4000000000)
    let rock : Station := { id := "1", name := "Rock" }
    let jazz : Station := { id := "2", name := "Jazz" }
    let first : SocketEvent := ⟨1, .frame
      "2[\"stations\",[\x7b\"id\":\"1\",\"name\":\"Rock\"\x7d]]"⟩
    let longer : SocketEvent := ⟨1, .frame
      "2[\"stations\",[\x7b\"id\":\"1\",\"name\":\"Rock\"\x7d,\x7b\"id\":\"2\",\"name\":\"Jazz\"\x7d]]"⟩
    let ops : List (Moment × Op) := [(0, .connect), (1, .receive ⟨1, .opened⟩),
      (2, .receive ⟨0, .closed⟩), (3, .receive first), (4, .receive ⟨1, .frame "pong"⟩),
      (5, .receive ⟨1, .failed "reset"⟩), (6, .act .skip)]
    s.heeded ops = [(0, .connect), (1, .receive ⟨1, .opened⟩), (3, .receive first),
        (6, .act .skip)] ∧
      s.run (s.heeded ops) = s.run ops ∧ s.answers ops = [true] ∧
      (s.run ops).deck.stations = [rock] ∧
      ((s.run ops).step 7 (.receive longer)).deck =
        (s.run ops).deck.step 7 (.event (.stations [rock, jazz])) ∧
      ((s.run ops).step 7 (.receive longer)).deck.stations = [rock, jazz] := by
  intro s rock jazz first longer ops
  have hheeds : ¬ (s.run ops).PassedOver (.receive longer) := by
    rw [passedOver_receive]
    decide +kernel
  obtain ⟨hrun, _, _, hstep⟩ := heeded_suffices 0 "ws://player/ws" (Deck.new 6 4000000000) ops
  obtain ⟨op, hop, hdeck⟩ := hstep 7 longer hheeds
  obtain rfl : Deck.Op.event (.stations [rock, jazz]) = op := Option.some.inj hop
  refine ⟨rfl, hrun, rfl, rfl, hdeck, ?_⟩
  rw [hdeck]
  rfl

end Session

end Tuner
