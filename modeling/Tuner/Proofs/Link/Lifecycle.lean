import Mathlib.Logic.Function.Iterate
import Mathlib.Tactic.TFAE
import Tuner.Proofs.Link.Traffic
import Tuner.Wire

/-!
# The life of a connection

Reports come late, and may come from sockets that were replaced long ago. Still the link always
knows where it stands: it is connecting or live, it holds a socket, and it waits for the newest
socket to close, or it is none of the three. So a reconnect is never refused for good.

* **`Standing`** — the two ways for a link to stand, told by the number of its newest socket;
* **`Orderly`** — the standing with what is known of the reports, kept by `orderly_step`;
* **`connection_lifecycle`** — what follows for every wire that can come up.
-/

namespace Tuner

namespace Link

variable {l : Link}

theorem phase_ne_closed_iff :
    l.phase ≠ .closed ↔ l.isConnecting = true ∨ l.isLive = true := by
  rw [isConnecting, isLive]
  cases l.phase <;> decide

/-- To ask a link about a far end is to ask the one socket of that number. -/
theorem isUp_of_mem (h : l.Numbered) {s : Socket} (hs : s ∈ l.sockets) :
    l.isUp s.generation = s.isUp := by
  rw [Bool.eq_iff_iff]
  constructor
  · intro hup
    obtain ⟨t, ht, hmatch⟩ := List.any_eq_true.mp hup
    rw [Bool.and_eq_true, beq_iff_eq] at hmatch
    -- the socket that is found is the one in question, since numbers are not given twice
    obtain rfl : t = s := h.eq_of_generation_eq ht hs hmatch.1
    exact hmatch.2
  · intro hup
    exact List.any_eq_true.mpr ⟨s, hs, by rw [hup, beq_self_eq_true]; rfl⟩

end Link

namespace Wire

variable {url : String} {w w' : Wire}

/-! ## What is known of the reports -/

/-- One more report is one more of its own socket and none of the others. -/
theorem reports_channel (generation : Nat) (e : SocketEvent) :
    ({ w with channel := w.channel ++ [e] } : Wire).reports generation =
      w.reports generation ++ if e.generation = generation then [e.report] else [] := by
  simp only [reports, ← List.append_assoc, List.filter_append, List.map_append]
  congr 1
  by_cases h : e.generation = generation
  · simp [h]
  · simp [h]

/-- A socket whose close was handled has nothing waiting. -/
theorem not_closed_of_waiting {e : SocketEvent} {rest : List SocketEvent}
    (hproper : Proper (w.reports e.generation)) (hchannel : w.channel = e :: rest) :
    ⟨e.generation, .closed⟩ ∉ w.handled := by
  intro hclosed
  have hreports : w.reports e.generation =
      (w.handled.filter (·.generation == e.generation)).map (·.report) ++
        e.report :: (rest.filter (·.generation == e.generation)).map (·.report) := by
    simp [reports, hchannel]
  have hmem : Report.closed ∈ (w.handled.filter (·.generation == e.generation)).map (·.report) :=
    List.mem_map.mpr ⟨_, List.mem_filter.mpr ⟨hclosed, beq_self_eq_true _⟩, rfl⟩
  -- a close is the last report of its socket, and here one more comes behind it
  have hlast := hproper.closed
  rw [hreports, List.dropLast_append_of_ne_nil (List.cons_ne_nil _ _)] at hlast
  exact hlast (List.mem_append_left _ hmem)

/-! ## Where the link stands -/

/-- The two ways for a link to stand. -/
inductive Standing (w : Wire) : Prop where
  | awaiting
      (hopened : 0 < w.link.generation)
      (hclosed : ⟨w.link.generation, .closed⟩ ∉ w.handled)
      (hphase : w.link.phase ≠ .closed)
      (hheld : w.link.held = some w.link.generation)
  | atRest
      (hdone : w.link.generation = 0 ∨ ⟨w.link.generation, .closed⟩ ∈ w.handled)
      (hphase : w.link.phase = .closed)
      (hheld : w.link.held = none)

/-- A wire in order: reports come from sockets that were opened and are proper, and the link stands
in one of the two ways. -/
structure Orderly (w : Wire) : Prop where
  numbered : w.link.Numbered
  known : ∀ e ∈ w.handled ++ w.channel, 0 < e.generation ∧ e.generation ≤ w.link.generation
  proper : ∀ generation, Proper (w.reports generation)
  standing : w.Standing

/-- At the start there are neither sockets nor reports. -/
theorem orderly_start (url : String) : Orderly { link := { url } } where
  numbered := Link.numbered_new url
  known := by rintro e ⟨⟩
  proper _ := (by decide : Proper [])
  standing := .atRest (Or.inl rfl) rfl rfl

/-- The standing is a matter of number, phase and held socket, and of the one close that counts. -/
theorem Standing.congr (h : w.Standing) (hgeneration : w'.link.generation = w.link.generation)
    (hphase : w'.link.phase = w.link.phase) (hheld : w'.link.held = w.link.held)
    (hclosed : ⟨w.link.generation, .closed⟩ ∈ w'.handled ↔
      ⟨w.link.generation, .closed⟩ ∈ w.handled) : w'.Standing := by
  cases h with
  | awaiting hopened hopen hphase' hheld' =>
    refine .awaiting ?_ ?_ ?_ ?_
    · rwa [hgeneration]
    · rwa [hgeneration, hclosed]
    · rwa [hphase]
    · rwa [hheld, hgeneration]
  | atRest hdone hphase' hheld' =>
    refine .atRest ?_ ?_ ?_
    · rwa [hgeneration, hclosed]
    · rwa [hphase]
    · rwa [hheld]

/-- A call from above opens a socket and then waits for it, or leaves the standing as it was. Only
reports go live or close. -/
theorem standing_call (h : w.Orderly) (op : Link.Op) (hop : ∀ e, op ≠ .receive e) :
    Standing { w with link := w.link.step op } := by
  cases Link.step_turn w.link op with
  | opens hconnect hstep =>
    refine .awaiting ?_ ?_ ?_ ?_ <;> simp only [hstep]
    · exact Nat.succ_pos _
    · -- No report can carry the number of a socket that was not there.
      intro hclosed
      have hle : w.link.generation + 1 ≤ w.link.generation :=
        (h.known _ (List.mem_append_left _ hclosed)).2
      omega
    · rintro ⟨⟩
    · rfl
  | goesLive hreceive hstep => exact absurd hreceive (hop _)
  | closes hreceive hstep => exact absurd hreceive (hop _)
  | listens label hlisten =>
    subst hlisten
    exact h.standing.congr rfl rfl rfl Iff.rfl
  | stays hquiet hlisten hstep =>
    exact h.standing.congr hstep.generation hstep.phase hstep.held Iff.rfl

/-- What is called for adds no report, and numbers only grow. -/
theorem orderly_call (h : w.Orderly) (op : Link.Op) (hop : ∀ e, op ≠ .receive e) :
    Orderly { w with link := w.link.step op } := by
  refine ⟨Link.numbered_step op h.numbered, fun e he => ?_, h.proper, standing_call h op hop⟩
  obtain ⟨hpos, hle⟩ := h.known e he
  exact ⟨hpos, Nat.le_trans hle (Link.generation_le_step w.link op)⟩

/-- A report that a socket makes is proper, and the link knows nothing of it yet. -/
theorem orderly_report (h : w.Orderly) {s : Socket} {r : Report} (hs : s ∈ w.link.sockets)
    (hproper : Proper (w.reports s.generation ++ [r])) :
    Orderly { w with channel := w.channel ++ [⟨s.generation, r⟩] } := by
  refine ⟨h.numbered, fun e he => ?_, fun generation => ?_, ?_⟩
  · rw [← List.append_assoc, List.mem_append, List.mem_singleton] at he
    rcases he with he | rfl
    · exact h.known e he
    · exact h.numbered.bounds hs
  · -- the socket itself stays proper by assumption, and the others have the reports they had
    rw [reports_channel]
    by_cases hsame : s.generation = generation
    · subst hsame
      rw [if_pos rfl]
      exact hproper
    · rw [if_neg hsame, List.append_nil]
      exact h.proper generation
  · exact h.standing.congr rfl rfl rfl Iff.rfl

/-- A socket that opens has not closed, so the link was waiting for it and goes on to do so. -/
theorem standing_opened (h : w.Orderly) {rest : List SocketEvent} {l : Link}
    (hchannel : w.channel = ⟨w.link.generation, .opened⟩ :: rest)
    (hlive : Link.Worn { w.link with phase := .live } l) :
    Standing { link := l, channel := rest,
               handled := w.handled ++ [⟨w.link.generation, .opened⟩] } := by
  have hnotClosed := not_closed_of_waiting (h.proper _) hchannel
  cases h.standing with
  | awaiting hopened hclosed hphase hheld =>
    refine .awaiting ?_ ?_ ?_ ?_
    · rw [hlive.generation]
      exact hopened
    · rw [hlive.generation, List.mem_append, List.mem_singleton]
      rintro (hmem | heq)
      · exact hclosed hmem
      · cases congrArg SocketEvent.report heq
    · rw [hlive.phase]
      rintro ⟨⟩
    · rw [hlive.held, hlive.generation]
      exact hheld
  | atRest hdone hphase hheld =>
    rcases hdone with hzero | hclosed
    · have hmem : ⟨w.link.generation, .opened⟩ ∈ w.handled ++ w.channel := by
        rw [hchannel]
        exact List.mem_append_right _ List.mem_cons_self
      have hpos : 0 < w.link.generation := (h.known _ hmem).1
      omega
    · exact absurd hclosed hnotClosed

/-- **A report that is handed over keeps the standing.** A close that is heeded brings the link to
rest, an opening that is heeded finds it waiting, and any other report is neither. -/
theorem standing_deliver (h : w.Orderly) {e : SocketEvent} {rest : List SocketEvent}
    (hchannel : w.channel = e :: rest) :
    Standing { link := w.link.receive e, channel := rest, handled := w.handled ++ [e] } := by
  have hstepped : w.link.step (.receive e) = w.link.receive e := rfl
  cases Link.step_turn w.link (.receive e) with
  | opens hconnect hstep => rcases hconnect with hconnect | ⟨hconnect, -⟩ <;> cases hconnect
  | goesLive hreceive hstep =>
    obtain rfl : e = ⟨w.link.generation, .opened⟩ := Link.Op.receive.inj hreceive
    rw [hstepped] at hstep
    exact standing_opened h hchannel hstep
  | closes hreceive hstep =>
    obtain rfl : e = ⟨w.link.generation, .closed⟩ := Link.Op.receive.inj hreceive
    rw [hstepped] at hstep
    -- the close of the newest socket is among what was handled from now on
    refine .atRest ?_ ?_ ?_ <;> simp only [hstep]
    exact Or.inr (List.mem_append_right _ (List.mem_singleton.mpr rfl))
  | listens label hlisten => cases hlisten
  | stays hquiet hlisten hstep =>
    rw [hstepped] at hstep
    -- What is quiet is not the close that the link waits for.
    have hother : e ≠ ⟨w.link.generation, .closed⟩ := by
      rintro rfl
      rw [Link.announces_closed] at hquiet
      cases hquiet
    refine h.standing.congr hstep.generation hstep.phase hstep.held ?_
    rw [List.mem_append, List.mem_singleton]
    constructor
    · rintro (hmem | heq)
      · exact hmem
      · exact absurd heq.symm hother
    · exact Or.inl

/-- A report passes from the channel to those that were handled, so all reports together stay the
same. -/
theorem orderly_deliver (h : w.Orderly) {e : SocketEvent} {rest : List SocketEvent}
    (hchannel : w.channel = e :: rest) :
    Orderly { link := w.link.receive e, channel := rest, handled := w.handled ++ [e] } := by
  have hreports : (w.handled ++ [e]) ++ rest = w.handled ++ w.channel := by
    rw [hchannel, List.append_assoc, List.singleton_append]
  refine ⟨Link.numbered_receive e h.numbered, fun e' he' => ?_, fun generation => ?_,
    standing_deliver h hchannel⟩
  · rw [hreports] at he'
    obtain ⟨hpos, hle⟩ := h.known e' he'
    exact ⟨hpos, Nat.le_trans hle (Link.generation_le_step w.link (.receive e))⟩
  · rw [reports, hreports]
    exact h.proper generation

/-- All that can happen keeps a wire in order. -/
theorem orderly_step (h : w.Orderly) (hstep : w.Step w') : w'.Orderly := by
  cases hstep with
  | call op hop => exact orderly_call h op hop
  | report s r hs hproper => exact orderly_report h hs hproper
  | deliver e rest hchannel => exact orderly_deliver h hchannel

/-- Whatever led to it, a wire is in order. Induction on the way there. -/
theorem orderly_of_reachable (h : Reachable url w) : w.Orderly := by
  induction h with
  | start => exact orderly_start url
  | step _ hstep ih => exact orderly_step ih hstep

/-! ## The life of a connection -/

/-- To wait for the newest socket to close is to have one, and not to have handled its close. -/
theorem awaitsClose_iff (h : w.link.Numbered) :
    w.AwaitsClose ↔ 0 < w.link.generation ∧ ⟨w.link.generation, .closed⟩ ∉ w.handled := by
  constructor
  · rintro ⟨s, hlast, hclosed⟩
    have hs : s ∈ w.link.sockets := List.mem_of_getLast? hlast
    have hpos : 0 < s.generation := (h.bounds hs).1
    rw [h.getLast? hlast] at hclosed hpos
    exact ⟨hpos, hclosed⟩
  · rintro ⟨hpos, hclosed⟩
    rw [h.newest] at hpos
    have hne : w.link.sockets ≠ [] := List.ne_nil_of_length_pos hpos
    have hlast : w.link.sockets.getLast? = some (w.link.sockets.getLast hne) :=
      List.getLast?_eq_some_getLast hne
    refine ⟨_, hlast, ?_⟩
    rw [h.getLast? hlast]
    exact hclosed

/-- What is to be said of the connection of a wire. -/
structure Dependable (w : Wire) : Prop where
  /-- The link is connecting or live, it holds a socket, and it waits for the newest socket to
  close: one of these means the others. -/
  together : [w.link.isConnecting = true ∨ w.link.isLive = true, w.link.held.isSome = true,
    w.AwaitsClose].TFAE
  /-- If no socket was ever opened, or the newest has closed, then reconnecting opens one socket,
  and reconnecting again opens no other. -/
  reconnects : (w.link.sockets = [] ∨
      ∃ s, w.link.sockets.getLast? = some s ∧ ⟨s.generation, .closed⟩ ∈ w.handled) →
    ∀ n, ∃ s, (Link.reconnect^[n + 1] w.link).sockets = w.link.sockets ++ [s]
  /-- While the link waits for the newest socket to close, reconnecting does nothing. -/
  refuses : w.AwaitsClose → ∀ n, Link.reconnect^[n] w.link = w.link
  /-- While the link is live, a frame can be sent if the far end of the newest socket is up. It is
  then put on that socket and on no other, and else on none. -/
  sends : w.link.isLive = true →
    ∃ s, w.link.sockets.getLast? = some s ∧ w.link.canSend = s.isUp ∧
      ∀ frame generation, (w.link.send frame).framesOn generation =
        w.link.framesOn generation ++
          if s.isUp = true ∧ s.generation = generation then [frame] else []

/-- Each of the two ways to stand makes all three true, or none of them. -/
theorem together_of_orderly (h : w.Orderly) :
    [w.link.isConnecting = true ∨ w.link.isLive = true, w.link.held.isSome = true,
      w.AwaitsClose].TFAE := by
  rw [awaitsClose_iff h.numbered, ← Link.phase_ne_closed_iff]
  cases h.standing with
  | awaiting hopened hclosed hphase hheld =>
    have hsome : w.link.held.isSome = true := by rw [hheld]; rfl
    tfae_have 1 → 2 := fun _ => hsome
    tfae_have 2 → 3 := fun _ => ⟨hopened, hclosed⟩
    tfae_have 3 → 1 := fun _ => hphase
    tfae_finish
  | atRest hdone hphase hheld =>
    -- at rest all three are false
    tfae_have 1 → 2 := fun hopen => absurd hphase hopen
    tfae_have 2 → 3 := fun hsome => by rw [hheld] at hsome; cases hsome
    tfae_have 3 → 1 := fun ⟨hopened, hclosed⟩ => by
      rcases hdone with hzero | hdone
      · omega
      · exact absurd hdone hclosed
    tfae_finish

theorem not_awaitsClose
    (h : w.link.sockets = [] ∨
      ∃ s, w.link.sockets.getLast? = some s ∧ ⟨s.generation, .closed⟩ ∈ w.handled) :
    ¬ w.AwaitsClose := by
  rintro ⟨s, hlast, hopen⟩
  rcases h with hnone | ⟨t, hlast', hclosed⟩
  · rw [hnone] at hlast
    cases hlast
  · obtain rfl : s = t := Option.some.inj (hlast.symm.trans hlast')
    exact hopen hclosed

/-- A link that is open, or being opened, puts frames on its newest socket. -/
theorem Orderly.held_of_ne_closed (h : w.Orderly) (hphase : w.link.phase ≠ .closed) :
    w.link.held = some w.link.generation := by
  cases h.standing with
  | awaiting hopened hclosed hopen hheld => exact hheld
  | atRest hdone hrest hheld => exact absurd hrest hphase

/-- **A link is never stuck.** Sockets report late, in any interleaving, and after they were
replaced; in every wire that this can lead to, the link is connecting or live just as long as it
waits for its newest socket to close. -/
theorem connection_lifecycle (h : Reachable url w) : w.Dependable := by
  have horderly : w.Orderly := orderly_of_reachable h
  have htogether := together_of_orderly horderly
  have hopen : w.link.phase ≠ .closed ↔ w.AwaitsClose :=
    Link.phase_ne_closed_iff.trans (htogether.out 0 2)
  refine ⟨htogether, fun hdone n => ?_, fun hawaits n => ?_, fun hlive => ?_⟩
  · have hclosed : w.link.phase = .closed :=
      Decidable.byContradiction fun hphase => not_awaitsClose hdone (hopen.mp hphase)
    -- The first reconnect opens the socket, and the others find the link connecting.
    have hrest : Link.reconnect^[n] w.link.connect = w.link.connect :=
      Function.iterate_fixed (Link.reconnect_of_ne_closed (by rintro ⟨⟩)) n
    rw [Function.iterate_succ_apply, Link.reconnect_of_closed hclosed, hrest]
    exact ⟨_, rfl⟩
  · exact Function.iterate_fixed (Link.reconnect_of_ne_closed (hopen.mpr hawaits)) n
  · have hphase : w.link.phase ≠ .closed := by
      rw [(beq_iff_eq.mp hlive : w.link.phase = .live)]
      rintro ⟨⟩
    obtain ⟨s, hlast, hclosed⟩ := hopen.mp hphase
    have hheld : w.link.held = some s.generation := by
      rw [horderly.held_of_ne_closed hphase, horderly.numbered.getLast? hlast]
    have hsend : w.link.canSend = s.isUp := by
      rw [Link.canSend, hlive, hheld, Option.any_some, Bool.true_and,
        Link.isUp_of_mem horderly.numbered (List.mem_of_getLast? hlast)]
    refine ⟨s, hlast, hsend, fun frame generation => ?_⟩
    simp only [Link.framesOn_send, hsend, hheld, Option.some.injEq]

/-- The close of a live socket is still on its way when the socket is replaced. Once handled, it
does not make the link forget the socket that is being opened. -/
theorem connection_lifecycle_late_close :
    ∃ w, Reachable "ws://player/ws" w ∧ ⟨1, .closed⟩ ∈ w.handled ∧ w.link.generation = 2 ∧
      w.AwaitsClose ∧ ∀ n, Link.reconnect^[n] w.link = w.link := by
  have hstart : Reachable "ws://player/ws" { link := { url := "ws://player/ws" } } := .start
  have hconnected := hstart.step (.call .connect (by rintro e ⟨⟩))
  have hopened := (hconnected.step
    (.report { generation := 1, url := "ws://player/ws" } .opened (by decide) (by decide))).step
    (.deliver _ _ rfl)
  have hclosing := hopened.step
    (.report { generation := 1, url := "ws://player/ws", frames := [Command.query.frame] } .closed
      (by decide +kernel) (by decide +kernel))
  have hreplaced := hclosing.step (.call .connect (by rintro e ⟨⟩))
  have hlate := hreplaced.step (.deliver _ _ rfl)
  have hlife := connection_lifecycle hlate
  have hawaits := (hlife.together.out 1 2).mp rfl
  exact ⟨_, hlate, List.mem_cons_of_mem _ List.mem_cons_self, rfl, hawaits,
    hlife.refuses hawaits⟩

end Wire

end Tuner
