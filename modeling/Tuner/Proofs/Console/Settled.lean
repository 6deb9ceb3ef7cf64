import Tuner.Proofs.Console.Orders
import Tuner.Proofs.Session.Pipeline

/-!
# The console leaves no dialog open

Orders on stations go through the dialogs, and a dialog that is left half way would refuse the next
order of its kind. No history gets there. `Sound` is the invariant: it holds of a new session, every
line and every report keeps it (`sound_step`), and so it holds after any history (`sound_run`). In a
sound session every order that needs the player finds its dialog at the start, and hands the link
the commands that `Order.commands` lists.
-/

namespace Tuner

/-! ## Cancelling -/

theorem Flow.isIdle_iff {f : Flow} : f.isIdle = true ↔ f = {} := by
  obtain ⟨position, station, selection, text, source⟩ := f
  simp [Flow.isIdle, and_assoc]

namespace Deck

variable {d : Deck}

/-- The deck with some dialogs cancelled. -/
def cancelEach (dialogs : List Dialog) (d : Deck) : Deck :=
  dialogs.foldl (fun d dialog => d.cancel dialog) d

/-- A dialog that is among those cancelled is at its start, and the others are where they were.
Induction on the dialogs. -/
theorem flow_cancelEach (dialogs : List Dialog) (dialog : Dialog) :
    (d.cancelEach dialogs).flow dialog = if dialog ∈ dialogs then {} else d.flow dialog := by
  induction dialogs generalizing d with
  | nil => simp [cancelEach]
  | cons first rest ih =>
    have hstep : (d.cancelEach (first :: rest)) = (d.cancel first).cancelEach rest := rfl
    have hfirst : (d.cancel first).flow dialog = if first = dialog then {} else d.flow dialog := by
      rw [flow, flows_cancel, Flows.get_set]
      rfl
    rw [hstep, ih, hfirst]
    by_cases heq : first = dialog
    · subst heq
      simp
    · simp [heq, Ne.symm heq]

/-- To cancel those under way returns all to their start, since the others were there. -/
theorem flow_cancelActive (dialog : Dialog) :
    (d.cancelEach d.flows.active).flow dialog = {} := by
  rw [flow_cancelEach]
  split
  · rfl
  · next hnot =>
    have hmem : dialog ∈ Dialog.all := by cases dialog <;> decide
    -- a dialog that is not cancelled was not under way
    have hidle : (d.flow dialog).isIdle = true := by
      by_contra hactive
      exact hnot (List.mem_filter.mpr ⟨hmem, by simpa [flow] using hactive⟩)
    exact Flow.isIdle_iff.mp hidle

theorem flows_cancelActive : (d.cancelEach d.flows.active).flows = {} := by
  have hflow := flow_cancelActive (d := d)
  show Flows.mk _ _ _ _ _ = _
  rw [Flows.mk.injEq]
  exact ⟨hflow .createStation, hflow .addMusic, hflow .rename, hflow .delete, hflow .seeds⟩

end Deck

namespace Console

variable {s : Session} {now : Moment} {o : Order}

/-- A session cancels on its deck alone, as no command goes out. -/
theorem cancelAll_eq :
    cancelAll now s = { s with deck :=
      { s.deck.cancelEach s.deck.flows.active with pendingCreation := none } } := by
  have hfold : ∀ (dialogs : List Dialog) (s : Session),
      dialogs.foldl (fun s dialog => s.act now (.cancel dialog)) s =
        { s with deck := s.deck.cancelEach dialogs } := by
    intro dialogs
    induction dialogs with
    | nil => exact fun _ => rfl
    | cons dialog rest ih => exact fun s => ih (s.act now (.cancel dialog))
  rw [cancelAll, hfold]
  rfl

/-! ## One order -/

/-- What an order can do to a session. -/
inductive Turn (now : Moment) (s : Session) (o : Order) : Prop where
  | tries (intents : List Intent) (hintents : o.intents? = some intents)
      (hstep : (execute now o s).session =
        reportDropped now (s.allSucceed now intents) (s.actAll now intents))
  | cancels (ho : o = .cancel)
      (hstep : (execute now o s).session = cancelAll now s)
  | dismisses (ho : o = .no)
      (hstep : (execute now o s).session = s.act now .dismissNewStation)
  | reconnects (ho : o = .reconnect)
      (hstep : (execute now o s).session = s.modifyLink .reconnect)
  | stays (hcommands : ∀ d, o.commands d = []) (hstep : (execute now o s).session = s)

/-- An order does one of five things. -/
theorem execute_turn (now : Moment) (s : Session) (o : Order) : Turn now s o := by
  cases h : o.intents? with
  | some intents => exact .tries intents h (execute_of_intents h)
  | none =>
    cases o with
    | cancel => exact .cancels rfl rfl
    | no => exact .dismisses rfl rfl
    | reconnect => exact .reconnects rfl rfl
    | stations | status | help | quit => exact .stays (fun _ => rfl) rfl
    | create request => cases request <;> cases h
    | _ => cases h

/-- The dialogs are settled, and the deck follows what the link reports. -/
structure Sound (s : Session) : Prop where
  wired : s.Wired
  settled : s.deck.flows.Settled

/-- The dialogs stay settled: two orders are about the seeds, and the others return to where they
began. -/
theorem settled_flowsAfter {fs : Flows} (h : fs.Settled) : (o.flowsAfter fs).Settled := by
  unfold Order.flowsAfter
  split
  · exact ⟨rfl, .reviewing _⟩
  · exact ⟨rfl, .idle⟩
  · exact h

/-- **Every order leaves the dialogs settled.** -/
theorem settled_execute (hs : s.deck.flows.Settled) (ho : o.Tidy) :
    (execute now o s).session.deck.flows.Settled := by
  cases execute_turn now s o with
  | tries intents hintents hstep =>
    have hcourse := (Deck.course_order now s.link.canSend hs ho hintents).2
    rw [hstep, flows_reportDropped, (Session.actAll_eq now s intents).1, hcourse]
    exact settled_flowsAfter hs
  | cancels _ hstep =>
    rw [hstep, cancelAll_eq]
    show (s.deck.cancelEach s.deck.flows.active).flows.Settled
    rw [Deck.flows_cancelActive]
    exact ⟨rfl, .idle⟩
  | dismisses _ hstep =>
    rw [hstep]
    exact hs
  | reconnects _ hstep =>
    rw [hstep]
    exact hs
  | stays _ hstep => rwa [hstep]

theorem wired_of_hub {s s' : Session} (h : s.Wired) (hhub : s'.hub = s.hub) : s'.Wired := by
  refine ⟨?_, fun kind => ?_, ?_⟩
  · rw [Session.link, hhub]
    exact h.numbered
  · rw [hhub]
    exact h.events kind
  · rw [hhub]
    exact h.connection

theorem wired_actAll (h : s.Wired) (intents : List Intent) : (s.actAll now intents).Wired := by
  induction intents generalizing s with
  | nil => exact h
  | cons i rest ih =>
    have hact : (s.act now i).Wired := Session.wired_step now (.act i) h
    rw [Session.actAll]
    split
    · exact ih hact
    · exact hact

/-- Every order leaves a session wired. The one that does more than send opens a socket. -/
theorem wired_execute (h : s.Wired) (o : Order) : (execute now o s).session.Wired := by
  cases execute_turn now s o with
  | tries intents _ hstep =>
    rw [hstep]
    exact wired_of_hub (wired_actAll h intents) (hub_reportDropped _)
  | cancels _ hstep =>
    rw [hstep, cancelAll_eq]
    exact wired_of_hub h rfl
  | dismisses _ hstep =>
    rw [hstep]
    exact wired_of_hub h rfl
  | reconnects _ hstep =>
    rw [hstep]
    exact Session.wired_step now .reconnect h
  | stays _ hstep => rwa [hstep]

/-- **With the link up, an order hands over its commands** and nothing else. -/
theorem link_execute (now : Moment) (hs : s.deck.flows.Settled) (ho : o.Tidy)
    (hsend : s.link.canSend = true) :
    (execute now o s).session.link = s.link.handOver (o.commands s.deck) := by
  cases execute_turn now s o with
  | tries intents hintents hstep =>
    have hcourse := (Deck.course_order now s.link.canSend hs ho hintents).1
    rw [hstep, Session.link, hub_reportDropped, ← Session.link,
      (Session.actAll_eq now s intents).2.1, hcourse]
  | cancels ho hstep =>
    rw [hstep, cancelAll_eq, ho]
    rfl
  | dismisses ho hstep =>
    rw [hstep, ho]
    rfl
  | reconnects ho hstep =>
    -- a link that can send is live, and to reconnect does nothing then
    have hlive : s.link.phase = .live := (Link.canSend_iff.mp hsend).1
    have hstay : s.link.reconnect = s.link := Link.reconnect_of_ne_closed (by simp [hlive])
    rw [hstep, ho]
    exact hstay
  | stays hcommands hstep =>
    rw [hstep, hcommands]
    rfl

/-! ## Runs -/

/-- Reports are not intents. -/
theorem deckOp?_ne_intent (r : Report) (i : Intent) : r.deckOp? ≠ some (.intent i) := by
  cases r <;> simp [Report.deckOp?]

theorem flows_receive (h : s.Wired) (e : SocketEvent) :
    (s.receive now e).deck.flows = s.deck.flows := by
  show (s.hub.follow now e s.deck).flows = s.deck.flows
  rw [Session.follow_eq h]
  split
  · cases hop : e.report.deckOp? with
    | none => rfl
    | some op =>
      cases op with
      | connection isLive => exact Deck.flows_setConnected isLive
      | event event => exact Deck.flows_apply event
      | intent i => exact absurd hop (deckOp?_ne_intent e.report i)
  · rfl

/-- **Every line and every report keeps a session sound.** A line is sound for the dialogs by its
course, and what is reported does not reach them. -/
theorem sound_step (h : Sound s) (op : Op) : Sound (step now s op) := by
  obtain ⟨hwired, hsettled⟩ := h
  cases op with
  | line text =>
    show Sound (typed now text s)
    unfold typed
    split
    · next o hparse =>
      exact ⟨wired_execute hwired o, settled_execute hsettled (Order.tidy_of_parse hparse)⟩
    · exact ⟨hwired, hsettled⟩
  | connect => exact ⟨Session.wired_step now .connect hwired, hsettled⟩
  | listen label => exact ⟨Session.wired_step now (.listen label) hwired, hsettled⟩
  | vanish => exact ⟨Session.wired_step now .vanish hwired, hsettled⟩
  | receive e =>
    refine ⟨Session.wired_step now (.receive e) hwired, ?_⟩
    show (s.receive now e).deck.flows.Settled
    rw [flows_receive hwired]
    exact hsettled
  | refresh => exact ⟨wired_of_hub hwired rfl, hsettled⟩

/-- So does every history, by induction on it. -/
theorem sound_run (h : Sound s) (history : List (Moment × Op)) : Sound (run s history) := by
  induction history generalizing s with
  | nil => exact h
  | cons entry rest ih => exact ih (sound_step h entry.2)

theorem sound_new (now : Moment) (url : String) (maxGain : Float) (lifetime : Span) :
    Sound (Session.new now url (Deck.new maxGain lifetime)) :=
  ⟨Session.wired_new now url _, rfl, .idle⟩

/-- What can be relied on at the console. -/
structure Usable (s : Session) : Prop where
  /-- Only the dialog on seeds can be under way. -/
  idle : ∀ dialog, dialog ≠ .seeds → (s.deck.flow dialog).isIdle = true
  /-- If it is, it shows the seeds of a station, and none is picked. -/
  seeds : (s.deck.flow .seeds).isIdle = true ∨
    (s.deck.flow .seeds).isAt .seeds .reviewSeeds = true ∧
      (s.deck.flow .seeds).station.isSome = true ∧ (s.deck.flow .seeds).selection = none
  /-- With the link up, a line hands over the commands of its order: the socket that is held gets
  their frames in order, and no other socket gets any. -/
  answers : ∀ now line o, Order.parse line = .ok o → s.link.canSend = true →
    (typed now line s).link = s.link.handOver (o.commands s.deck) ∧
    ∀ generation, (typed now line s).link.framesOn generation = s.link.framesOn generation ++
      if s.link.held = some generation then (o.commands s.deck).map Command.frame else []
  /-- Cancelling leaves no dialog under way and no station asked for. -/
  cancels : ∀ now line, Order.parse line = .ok .cancel →
    (∀ dialog, ((typed now line s).deck.flow dialog).isIdle = true) ∧
      (typed now line s).deck.pendingCreation = none

/-- All that can be relied on follows from a sound session, and nothing else of the history is
needed. -/
theorem usable_of_sound (h : Sound s) : Usable s where
  idle dialog hdialog := by
    rw [Deck.flow, h.settled.others]
    cases dialog with
    | seeds => exact absurd rfl hdialog
    | _ => rfl
  seeds := by
    have hresting : (s.deck.flow .seeds).Resting := h.settled.seeds
    generalize s.deck.flow .seeds = f at hresting
    cases hresting with
    | idle => exact .inl rfl
    | reviewing id => exact .inr ⟨rfl, rfl, rfl⟩
  answers now line o hparse hsend := by
    have hlink := link_execute now h.settled (Order.tidy_of_parse hparse) hsend
    rw [typed_of_parse hparse, hlink]
    exact ⟨rfl, fun generation => Link.framesOn_handOver hsend⟩
  cancels now line hparse := by
    have hcancel : typed now line s = cancelAll now s := typed_of_parse hparse
    rw [hcancel, cancelAll_eq]
    refine ⟨fun dialog => ?_, rfl⟩
    exact Flow.isIdle_iff.mpr (Deck.flow_cancelActive dialog)

/-- **The console never gets stuck in a dialog.** After any history of lines and reports the dialogs
are as they were at the start, except that the seeds of a station may be shown. So the next line
is answered in full if the link is up, whatever has failed before it. -/
theorem never_stuck (start : Moment) (url : String) (maxGain : Float) (lifetime : Span)
    (history : List (Moment × Op)) :
    Usable (run (Session.new start url (Deck.new maxGain lifetime)) history) :=
  usable_of_sound (sound_run (sound_new start url maxGain lifetime) history)

/-- A station is deleted after the seeds of another one were shown. -/
theorem never_stuck_delete :
    let s := run (Session.new 0 "ws://player/ws" (Deck.new 6 4000000000))
      [(0, .connect), (1, .receive ⟨1, .opened⟩), (2, .line "seeds 5")]
    (s.deck.flow .seeds).isAt .seeds .reviewSeeds = true ∧
      (typed 3 "delete 7" s).link.framesOn 1 =
        s.link.framesOn 1 ++ [(Command.deleteStation "7").frame] := by
  intro s
  have husable : Usable s := never_stuck 0 "ws://player/ws" 6 4000000000
    [(0, .connect), (1, .receive ⟨1, .opened⟩), (2, .line "seeds 5")]
  have hparse : Order.parse "delete 7" = .ok (.delete "7") := by rfl
  have hsend : s.link.canSend = true := by decide
  have hheld : s.link.held = some 1 := by decide
  have hframes := (husable.answers 3 "delete 7" _ hparse hsend).2 1
  rw [if_pos hheld] at hframes
  exact ⟨by decide, hframes⟩

end Console

end Tuner
