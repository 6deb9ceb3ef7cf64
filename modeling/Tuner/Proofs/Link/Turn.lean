import Tuner.Proofs.Link.Numbering

/-!
# One step of a link

Whatever happens to a link, it does one of five things: it opens a socket, it goes live, it closes,
it takes a listener, or it stays on its course while its sockets wear: frames are put on them, and
far ends vanish. Laws of all runs go through these five and never through the operations.

* `Worn` relates two links that differ in the wear of their sockets only;
* `step_turn` is the case analysis, and says what is announced in each case;
* `holdsNewest_run` is the first law that follows: frames go to the newest socket or to none.
-/

namespace Tuner.Link

variable {l l' : Link} {op : Op}

/-- The change of the connection that one thing announces to those above the link. -/
def announces? (l : Link) : Op → Option Bool
  | .receive e =>
    match l.inbound? e with
    | some (.connection isLive) => some isLive
    | _ => none
  | _ => none

/-! ## The wear of sockets -/

/-- The same link but for its sockets, of which no far end has come back. -/
structure Worn (l l' : Link) : Prop where
  rest : l' = { l with sockets := l'.sockets }
  isUp : ∀ generation, l'.isUp generation = true → l.isUp generation = true

theorem worn_refl (l : Link) : l.Worn l :=
  ⟨rfl, fun _ h => h⟩

/-- Any change of the sockets that keeps their numbers and revives no far end is wear. -/
theorem worn_map {change : Socket → Socket}
    (hgeneration : ∀ s, (change s).generation = s.generation)
    (hup : ∀ s, (change s).isUp = true → s.isUp = true) :
    l.Worn { l with sockets := l.sockets.map change } := by
  refine ⟨rfl, fun generation h => ?_⟩
  -- the far end that is up after the change was up before, on the same socket
  obtain ⟨t, ht, hmatch⟩ := List.any_eq_true.mp h
  obtain ⟨s, hs, rfl⟩ := List.mem_map.mp ht
  rw [Bool.and_eq_true, hgeneration] at hmatch
  have hsup : s.isUp = true := hup s hmatch.2
  exact List.any_eq_true.mpr ⟨s, hs, by rw [hmatch.1, hsup]; rfl⟩

/-- A frame on a socket is wear, whichever socket has the number. -/
theorem worn_put (generation : Nat) (frame : String) : l.Worn (l.put generation frame) :=
  worn_map (fun s => by split <;> rfl) (fun s h => by split at h <;> exact h)

/-- So is what becomes of a frame that is sent, whether or not it was dropped. -/
theorem worn_send (frame : String) : l.Worn (l.send frame) := by
  unfold send
  split
  · split
    · exact worn_put _ frame
    · exact worn_refl l
  · exact worn_refl l

theorem worn_vanish : l.Worn l.vanish :=
  worn_map (fun _ => rfl) (by rintro s ⟨⟩)

/-- Far ends vanish, one at a time or all at once, and never come back. -/
theorem worn_lose (generation : Nat) : l.Worn (l.lose generation) := by
  refine worn_map (fun s => by split <;> rfl) fun s h => ?_
  split at h
  · cases h
  · exact h

theorem Worn.generation (h : l.Worn l') : l'.generation = l.generation := by rw [h.rest]

theorem Worn.phase (h : l.Worn l') : l'.phase = l.phase := by rw [h.rest]

theorem Worn.held (h : l.Worn l') : l'.held = l.held := by rw [h.rest]

theorem Worn.listeners (h : l.Worn l') : l'.listeners = l.listeners := by rw [h.rest]

/-- A frame can be sent on a live link that holds a socket with a far end. -/
theorem canSend_iff : l.canSend = true ↔
    l.phase = .live ∧ ∃ generation, l.held = some generation ∧ l.isUp generation = true := by
  rw [canSend, isLive, Bool.and_eq_true, beq_iff_eq]
  refine and_congr_right fun _ => ?_
  cases l.held with
  | none => simp
  | some generation => simp

/-- What a worn link can still send the link before could send, since only a far end may have
vanished between the two. -/
theorem Worn.canSend (h : l.Worn l') (hsend : l'.canSend = true) : l.canSend = true := by
  obtain ⟨hlive, generation, hheld, hup⟩ := canSend_iff.mp hsend
  rw [h.phase] at hlive
  rw [h.held] at hheld
  exact canSend_iff.mpr ⟨hlive, generation, hheld, h.isUp generation hup⟩

/-! ## The five things that a link does -/

/-- All that one thing can do to a link. -/
inductive Turn (l : Link) (op : Op) : Prop where
  | opens
      (hop : op = .connect ∨ op = .reconnect ∧ l.phase = .closed)
      (hstep : l.step op = l.connect)
  | goesLive
      (hop : op = .receive ⟨l.generation, .opened⟩)
      (hstep : Worn { l with phase := .live } (l.step op))
  | closes
      (hop : op = .receive ⟨l.generation, .closed⟩)
      (hstep : l.step op = { l with phase := .closed, held := none })
  | listens (label : String)
      (hop : op = .listen label)
  | stays
      (hquiet : l.announces? op = none)
      (hlisten : ∀ label, op ≠ .listen label)
      (hstep : l.Worn (l.step op))

/-- A report counts if it carries the number of the newest socket. -/
theorem isCurrent_iff {e : SocketEvent} : l.isCurrent e = true ↔ e.generation = l.generation := by
  rw [isCurrent, beq_iff_eq]

/-- To reconnect is to open a socket where there is none, and to do nothing else. -/
theorem turn_reconnect : Turn l .reconnect := by
  have hstep : l.step .reconnect = l.reconnect := rfl
  by_cases hphase : l.phase = .closed
  · exact .opens (Or.inr ⟨rfl, hphase⟩) (hstep.trans (reconnect_of_closed hphase))
  · refine .stays rfl (by rintro label ⟨⟩) ?_
    rw [hstep, reconnect_of_ne_closed hphase]
    exact worn_refl l

/-- A report of the newest socket lets the link go live or close. Other reports leave it on its
course, as all reports of older sockets do. -/
theorem turn_receive (e : SocketEvent) : Turn l (.receive e) := by
  have hstep : l.step (.receive e) = l.receive e := rfl
  have hquiet : l.announces? (.receive e) = (match l.inbound? e with
    | some (.connection isLive) => some isLive
    | _ => none) := rfl
  -- `receive` and `inbound?` ask the same two questions, so one split serves both
  unfold receive at hstep
  unfold inbound? at hquiet
  by_cases hcurrent : l.isCurrent e = true
  · obtain ⟨generation, report⟩ := e
    obtain rfl : generation = l.generation := isCurrent_iff.mp hcurrent
    rw [if_pos hcurrent] at hstep hquiet
    cases report with
    | opened =>
      -- the query is sent by a link that is live already, and wears a socket
      refine .goesLive rfl ?_
      rw [hstep]
      exact worn_send _
    | closed => exact .closes rfl hstep
    | frame text => exact .stays hquiet (by rintro label ⟨⟩) (by rw [hstep]; exact worn_refl l)
    | failed message => exact .stays hquiet (by rintro label ⟨⟩) (by rw [hstep]; exact worn_refl l)
  · -- a report of a socket that was replaced
    rw [if_neg hcurrent] at hstep hquiet
    exact .stays hquiet (by rintro label ⟨⟩) (by rw [hstep]; exact worn_refl l)

/-- **One of the five, whatever happens.** This is the only lemma that goes through the operations
of a link; laws of runs split the turns that it gives. -/
theorem step_turn (l : Link) (op : Op) : Turn l op := by
  cases op with
  | connect => exact .opens (Or.inl rfl) rfl
  | reconnect => exact turn_reconnect
  | send frame => exact .stays rfl (by rintro label ⟨⟩) (worn_send frame)
  | listen label => exact .listens label rfl
  | receive e => exact turn_receive e
  | vanish => exact .stays rfl (by rintro label ⟨⟩) worn_vanish
  | lose generation => exact .stays rfl (by rintro label ⟨⟩) (worn_lose generation)

theorem announces_opened : l.announces? (.receive ⟨l.generation, .opened⟩) = some true := by
  have hcurrent : l.isCurrent ⟨l.generation, .opened⟩ = true := isCurrent_iff.mpr rfl
  simp only [announces?, inbound?, if_pos hcurrent]

theorem announces_closed : l.announces? (.receive ⟨l.generation, .closed⟩) = some false := by
  have hcurrent : l.isCurrent ⟨l.generation, .closed⟩ = true := isCurrent_iff.mpr rfl
  simp only [announces?, inbound?, if_pos hcurrent]

theorem generation_le_step (l : Link) (op : Op) : l.generation ≤ (l.step op).generation := by
  cases step_turn l op with
  | opens hop hstep =>
    rw [hstep]
    exact Nat.le_succ _
  | goesLive hop hstep => exact Nat.le_of_eq hstep.generation.symm
  | closes hop hstep => exact Nat.le_of_eq (congrArg Link.generation hstep).symm
  | listens label hop =>
    subst hop
    exact Nat.le_refl _
  | stays hquiet hlisten hstep => exact Nat.le_of_eq hstep.generation.symm

/-! ## The socket that is held -/

/-- Frames go to the newest socket, or to none. -/
def HoldsNewest (l : Link) : Prop :=
  l.held = none ∨ l.held = some l.generation

/-- A socket is held from its opening to its close, and its number is the last one all that time. -/
theorem holdsNewest_step (op : Op) (h : l.HoldsNewest) : (l.step op).HoldsNewest := by
  cases step_turn l op with
  | opens hop hstep =>
    rw [hstep]
    exact Or.inr rfl
  | goesLive hop hstep =>
    rw [HoldsNewest, hstep.held, hstep.generation]
    exact h
  | closes hop hstep =>
    rw [hstep]
    exact Or.inl rfl
  | listens label hop =>
    subst hop
    exact h
  | stays hquiet hlisten hstep =>
    rw [HoldsNewest, hstep.held, hstep.generation]
    exact h

theorem holdsNewest_new (url : String) : ({ url } : Link).HoldsNewest :=
  Or.inl rfl

/-- **Frames go to the newest socket or to none, in every run.** -/
theorem holdsNewest_run (h : l.HoldsNewest) (ops : List Op) : (l.run ops).HoldsNewest :=
  run_invariant HoldsNewest (fun _ op => holdsNewest_step op) h ops

theorem HoldsNewest.eq {generation : Nat} (h : l.HoldsNewest) (hheld : l.held = some generation) :
    generation = l.generation := by
  rcases h with hnone | hsome
  · rw [hnone] at hheld
    cases hheld
  · exact Option.some.inj (hheld.symm.trans hsome)

end Tuner.Link
