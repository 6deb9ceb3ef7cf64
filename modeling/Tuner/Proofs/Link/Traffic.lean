import Tuner.Proofs.Link.Turn

/-!
# What is put on the sockets

The frames on a socket are told from the outside: from what has happened to the link, and from what
it answered at the time. Nothing else is ever put on a socket, and nothing is lost.

* **what one thing puts on a socket** — `puts`: the query that follows an opening, or a frame that
  is sent while the socket is the newest;
* **what one thing opens** — `opensSocket`;
* **one step** — `framesOn_step` and `length_step`; **runs** — `framesOn_run` and `length_run`, over
  the `trace` of a run;
* **the query comes first** — `Primed`, kept by every step;
* **all together** — `traffic_accounted`.
-/

namespace Tuner.Link

variable {l : Link} {op : Op} {generation : Nat} {frame : String}

/-- The query for a snapshot, as it is sent. -/
def bootstrap : String := "2[\"query\",null]"

/-- What one thing puts on the socket with a number. -/
def puts (generation : Nat) (l : Link) : Op → List String
  | .receive e =>
    if e = ⟨generation, .opened⟩ ∧ l.held = some generation ∧ l.isUp generation = true then
      [bootstrap]
    else []
  | .send frame => if l.canSend = true ∧ l.generation = generation then [frame] else []
  | _ => []

/-- Whether one thing opens a socket. -/
def opensSocket (l : Link) : Op → Bool
  | .connect => true
  | .reconnect => !l.isLive && !l.isConnecting
  | _ => false

/-- What happens in a run, each thing with the link that it happens to. -/
def trace : Link → List Op → List (Link × Op)
  | _, [] => []
  | l, op :: rest => (l, op) :: trace (l.step op) rest

/-! ## Sockets by their numbers -/

def socket? (generation : Nat) (l : Link) : Option Socket :=
  l.sockets.find? (·.generation == generation)

/-- The frames on the socket with a number, none if there is no such socket. -/
def framesOn (generation : Nat) (l : Link) : List String :=
  ((l.socket? generation).map (·.frames)).getD []

theorem generation_of_socket? {s : Socket} (h : l.socket? generation = some s) :
    s.generation = generation := by
  have hmatch : (s.generation == generation) = true :=
    List.find?_some (p := fun s : Socket => s.generation == generation) h
  exact beq_iff_eq.mp hmatch

theorem exists_socket? {s : Socket} (hs : s ∈ l.sockets) :
    ∃ t ∈ l.sockets, l.socket? s.generation = some t := by
  have hfound : (l.socket? s.generation).isSome = true :=
    List.find?_isSome.mpr ⟨s, hs, beq_self_eq_true _⟩
  obtain ⟨t, ht⟩ := Option.isSome_iff_exists.mp hfound
  exact ⟨t, List.mem_of_find?_eq_some ht, ht⟩

/-- To look a socket up comes before or after a change that keeps the numbers. -/
theorem socket?_map {change : Socket → Socket}
    (hchange : ∀ s, (change s).generation = s.generation) :
    ({ l with sockets := l.sockets.map change } : Link).socket? generation =
      (l.socket? generation).map change := by
  rw [socket?, socket?, List.find?_map]
  have hsame : (fun s : Socket => s.generation == generation) ∘ change =
      fun s => s.generation == generation := by
    funext s
    rw [Function.comp_apply, hchange]
  rw [hsame]

/-- A change that leaves the frames of a number alone does so wherever it looks at the other
sockets. -/
theorem framesOn_map (change : Socket → Socket)
    (hchange : ∀ s, (change s).generation = s.generation)
    (hframes : ∀ s, s.generation = generation → (change s).frames = s.frames) :
    ({ l with sockets := l.sockets.map change } : Link).framesOn generation =
      l.framesOn generation := by
  rw [framesOn, socket?_map hchange, framesOn]
  cases hs : l.socket? generation with
  | none => rfl
  | some s =>
    exact hframes s (generation_of_socket? hs)

/-- A frame on another socket is none on this one. -/
theorem framesOn_put_of_ne {other : Nat} (h : generation ≠ other) :
    (l.put other frame).framesOn generation = l.framesOn generation := by
  refine framesOn_map _ (fun s => by split <;> rfl) fun s hs => ?_
  rw [if_neg (by rw [hs]; exact h)]

theorem framesOn_put (h : l.isUp generation = true) :
    (l.put generation frame).framesOn generation = l.framesOn generation ++ [frame] := by
  -- A far end that takes frames belongs to a socket.
  obtain ⟨s, hs, hmatch⟩ := List.any_eq_true.mp h
  obtain rfl : s.generation = generation := beq_iff_eq.mp (Bool.and_eq_true_iff.mp hmatch).1
  obtain ⟨t, -, ht⟩ := exists_socket? hs
  -- the socket that is found has the number, and so it is among those that change
  rw [put, framesOn, socket?_map (fun s => by split <;> rfl), framesOn, ht]
  show (if t.generation = s.generation then _ else t).frames = t.frames ++ [frame]
  rw [if_pos (generation_of_socket? ht)]

/-- **What a send puts on each socket.** The frame is on the socket that is held if it can be sent
at all, and on no other. -/
theorem framesOn_send :
    (l.send frame).framesOn generation =
      l.framesOn generation ++
        if l.canSend = true ∧ l.held = some generation then [frame] else [] := by
  unfold send
  cases hheld : l.held with
  | none => simp
  | some held =>
    dsimp only
    by_cases hsend : l.canSend = true
    · rw [if_pos hsend]
      obtain ⟨-, number, hnumber, hup⟩ := canSend_iff.mp hsend
      obtain rfl : held = number := Option.some.inj (hheld.symm.trans hnumber)
      -- the socket in question, or another one
      by_cases hsame : held = generation
      · subst hsame
        rw [if_pos ⟨hsend, rfl⟩, framesOn_put hup]
      · have hother : ¬ (l.canSend = true ∧ some held = some generation) :=
          fun h => hsame (Option.some.inj h.2)
        rw [if_neg hother, List.append_nil, framesOn_put_of_ne (Ne.symm hsame)]
    · rw [if_neg hsend, if_neg (fun h => hsend h.1), List.append_nil]

/-- A new socket comes in empty, so that no number has other frames than before. -/
theorem framesOn_connect : l.connect.framesOn generation = l.framesOn generation := by
  have hsockets : l.connect.socket? generation = (l.socket? generation).or
      ([{ generation := l.generation + 1, url := l.url }].find?
        fun s : Socket => s.generation == generation) := List.find?_append
  rw [framesOn, hsockets, framesOn]
  cases l.socket? generation with
  | some s => rfl
  | none =>
    -- The new socket is empty, whether or not it is the one in question.
    rw [Option.none_or, List.find?_singleton]
    split <;> rfl

/-- In a link that is numbered, the frames of a socket are the frames of its number. -/
theorem framesOn_of_mem (h : l.Numbered) {s : Socket} (hs : s ∈ l.sockets) :
    l.framesOn s.generation = s.frames := by
  obtain ⟨t, hmem, ht⟩ := exists_socket? hs
  obtain rfl : t = s := h.eq_of_generation_eq hmem hs (generation_of_socket? ht)
  rw [framesOn, ht]
  rfl

/-! ## One step -/

theorem query_frame : Command.query.frame = bootstrap := by decide

/-- The query is sent by a link that is live and otherwise the same. -/
theorem framesOn_opened (h : l.HoldsNewest) :
    (l.receive ⟨l.generation, .opened⟩).framesOn generation =
      l.framesOn generation ++ l.puts generation (.receive ⟨l.generation, .opened⟩) := by
  have hstep : l.receive ⟨l.generation, .opened⟩ =
      { l with phase := .live }.send Command.query.frame := by
    rw [receive, if_pos (isCurrent_iff.mpr rfl)]
  rw [hstep, framesOn_send, query_frame]
  show l.framesOn generation ++ _ = l.framesOn generation ++ if _ then _ else _
  congr 1
  refine if_congr ?_ rfl rfl
  rw [canSend_iff]
  constructor
  · rintro ⟨⟨-, number, hnumber, hup⟩, hheld⟩
    obtain rfl : number = generation := Option.some.inj (hnumber.symm.trans hheld)
    obtain rfl : number = l.generation := h.eq hheld
    exact ⟨rfl, hheld, hup⟩
  · rintro ⟨-, hheld, hup⟩
    exact ⟨⟨rfl, generation, hheld, hup⟩, hheld⟩

/-- The frames are as they were after any report but the opening of the newest socket. -/
theorem framesOn_receive_of_ne {e : SocketEvent} (h : e ≠ ⟨l.generation, .opened⟩) :
    (l.receive e).framesOn generation = l.framesOn generation := by
  unfold receive
  split
  · rename_i hcurrent
    obtain ⟨number, report⟩ := e
    obtain rfl : number = l.generation := isCurrent_iff.mp hcurrent
    cases report with
    | opened => exact absurd rfl h
    | frame text => rfl
    | failed message => rfl
    | closed => rfl
  · rfl

/-- A report puts on a socket what `puts` says, which is the query or nothing. -/
theorem framesOn_receive (h : l.HoldsNewest) (e : SocketEvent) :
    (l.receive e).framesOn generation =
      l.framesOn generation ++ l.puts generation (.receive e) := by
  by_cases hopened : e = ⟨l.generation, .opened⟩
  · subst hopened
    exact framesOn_opened h
  · -- An opening that is followed by the query is that of the socket that is held, the newest.
    have hnone : l.puts generation (.receive e) = [] := by
      refine if_neg ?_
      rintro ⟨rfl, hheld, -⟩
      exact hopened (by rw [h.eq hheld])
    rw [hnone, List.append_nil, framesOn_receive_of_ne hopened]

/-- **One step puts on each socket what `puts` says, and no more.** Frames go to the newest socket
only, which is what the cases of a send and of an opening need. -/
theorem framesOn_step (h : l.HoldsNewest) (op : Op) :
    (l.step op).framesOn generation = l.framesOn generation ++ l.puts generation op := by
  cases op with
  | connect => exact framesOn_connect.trans (List.append_nil _).symm
  | reconnect =>
    show l.reconnect.framesOn generation = l.framesOn generation ++ []
    rw [List.append_nil]
    by_cases hphase : l.phase = .closed
    · rw [reconnect_of_closed hphase, framesOn_connect]
    · rw [reconnect_of_ne_closed hphase]
  | send frame =>
    show (l.send frame).framesOn generation = _
    rw [framesOn_send]
    show _ = l.framesOn generation ++ if l.canSend = true ∧ l.generation = generation then _ else _
    congr 1
    refine if_congr (and_congr_right fun hsend => ?_) rfl rfl
    -- What can be sent goes to a socket that is held, and that one is the newest.
    constructor
    · intro hheld
      exact (h.eq hheld).symm
    · rintro rfl
      obtain ⟨-, number, hnumber, -⟩ := canSend_iff.mp hsend
      rw [← h.eq hnumber]
      exact hnumber
  | listen label => exact (List.append_nil _).symm
  | receive e => exact framesOn_receive h e
  | vanish =>
    show l.vanish.framesOn generation = l.framesOn generation ++ []
    rw [List.append_nil]
    exact framesOn_map (fun s => { s with isUp := false }) (fun _ => rfl) fun _ _ => rfl
  | lose other =>
    show (l.lose other).framesOn generation = l.framesOn generation ++ []
    rw [List.append_nil]
    exact framesOn_map _ (fun s => by split <;> rfl) fun s _ => by split <;> rfl

/-- Nothing is put on a socket but the newest. -/
theorem newest_of_puts (hheld : l.HoldsNewest) (h : l.puts generation op ≠ []) :
    generation = l.generation := by
  cases op with
  | receive e =>
    by_cases hput : e = ⟨generation, .opened⟩ ∧ l.held = some generation ∧ l.isUp generation = true
    · exact hheld.eq hput.2.1
    · exact absurd (if_neg hput) h
  | send frame =>
    by_cases hput : l.canSend = true ∧ l.generation = generation
    · exact hput.2.symm
    · exact absurd (if_neg hput) h
  | _ => exact absurd rfl h

/-- To reconnect opens a socket from one phase of the three. -/
theorem opensSocket_reconnect : l.opensSocket .reconnect = (l.phase == .closed) := by
  rw [opensSocket, isLive, isConnecting]
  cases l.phase <;> rfl

theorem step_of_opensSocket (h : l.opensSocket op = true) : l.step op = l.connect := by
  cases op with
  | connect => rfl
  | reconnect =>
    have hclosed : l.phase = .closed := beq_iff_eq.mp (opensSocket_reconnect ▸ h)
    exact reconnect_of_closed hclosed
  | _ => cases h

/-- A step opens a socket or it does not, and no socket is ever taken away. -/
theorem length_step (h : l.Numbered) (op : Op) :
    (l.step op).sockets.length = l.sockets.length + (l.opensSocket op).toNat := by
  have hstepped : (l.step op).generation = (l.step op).sockets.length :=
    (numbered_step op h).newest
  -- Counted by the number of the newest socket, the turn of the step tells the rest.
  rw [← hstepped, ← h.newest]
  cases step_turn l op with
  | opens hop hstep =>
    rw [hstep]
    rcases hop with rfl | ⟨rfl, hclosed⟩
    · rfl
    · rw [opensSocket_reconnect, hclosed]
      rfl
  | goesLive hop hstep =>
    subst hop
    exact hstep.generation
  | closes hop hstep =>
    subst hop
    rw [hstep]
    rfl
  | listens label hop =>
    subst hop
    rfl
  | stays hquiet hlisten hstep =>
    rw [hstep.generation]
    cases hopens : l.opensSocket op with
    | false => rfl
    | true =>
      -- What opens a socket does not stay on its course.
      have hgeneration : (l.step op).generation = l.generation := hstep.generation
      rw [step_of_opensSocket hopens] at hgeneration
      exact absurd hgeneration (Nat.succ_ne_self _)

/-! ## Runs -/

/-- The frames of a socket are what was put on it from the beginning. Induction on the run, with the
newest socket held at each step. -/
theorem framesOn_run (h : l.HoldsNewest) (ops : List Op) :
    (l.run ops).framesOn generation =
      l.framesOn generation ++
        (l.trace ops).flatMap fun entry => entry.1.puts generation entry.2 := by
  induction ops generalizing l with
  | nil => exact (List.append_nil _).symm
  | cons op rest ih =>
    rw [show l.run (op :: rest) = (l.step op).run rest from rfl, ih (holdsNewest_step op h),
      framesOn_step h, trace, List.flatMap_cons, List.append_assoc]

/-- There are as many sockets as there were openings. -/
theorem length_run (h : l.Numbered) (ops : List Op) :
    (l.run ops).sockets.length =
      l.sockets.length + (l.trace ops).countP fun entry => entry.1.opensSocket entry.2 := by
  induction ops generalizing l with
  | nil => rfl
  | cons op rest ih =>
    rw [show l.run (op :: rest) = (l.step op).run rest from rfl, ih (numbered_step op h),
      length_step h, trace, List.countP_cons]
    cases l.opensSocket op with
    | false => rfl
    | true => exact Nat.add_right_comm _ _ _

/-! ## The query comes first -/

/-- Frames begin with the query for a snapshot, if there are any. -/
def Begins (frames : List String) : Prop :=
  frames = [] ∨ frames.head? = some bootstrap

/-- What begins with the query still does with more behind it, and an empty socket takes the
beginning of what follows. -/
theorem Begins.append {frames rest : List String} (h : Begins frames)
    (hrest : frames = [] → Begins rest) : Begins (frames ++ rest) := by
  rcases h with hnil | hhead
  · rw [hnil, List.nil_append]
    exact hrest hnil
  · right
    rw [List.head?_append, hhead, Option.some_or]

/-- All sockets begin with the query, and a socket that takes frames has begun. -/
structure Primed (l : Link) : Prop where
  begins : ∀ generation, Begins (l.framesOn generation)
  begun : l.canSend = true → l.framesOn l.generation ≠ []

/-- On an empty socket the query is all that can be put: it takes no frame before. -/
theorem begins_puts (h : l.Primed) (hempty : l.framesOn generation = []) :
    Begins (l.puts generation op) := by
  cases op with
  | receive e =>
    show Begins (if _ then _ else _)
    split
    · exact Or.inr rfl
    · exact Or.inl rfl
  | send frame =>
    show Begins (if _ then _ else _)
    split
    · -- An empty socket takes no frame that is sent.
      rename_i hsend
      obtain ⟨hcan, rfl⟩ := hsend
      exact absurd hempty (h.begun hcan)
    · exact Or.inl rfl
  | _ => exact Or.inl rfl

/-- The query stays in front. Where the link goes live the query is what makes its socket begin;
elsewhere a socket that takes frames took them before. -/
theorem primed_step (hheld : l.HoldsNewest) (h : l.Primed) (op : Op) : (l.step op).Primed := by
  refine ⟨fun generation => ?_, fun hsend => ?_⟩
  · rw [framesOn_step hheld]
    exact (h.begins generation).append (begins_puts h)
  · rw [framesOn_step hheld]
    cases step_turn l op with
    | opens hop hstep =>
      -- A socket that is being opened takes no frames yet.
      rw [hstep] at hsend
      cases hsend
    | goesLive hop hstep =>
      -- What takes frames now took them before it went live, so the query was put on it.
      subst hop
      obtain ⟨-, generation, hheldNow, hup⟩ := canSend_iff.mp (hstep.canSend hsend)
      obtain rfl : generation = l.generation := hheld.eq hheldNow
      have hputs : l.puts l.generation (.receive ⟨l.generation, .opened⟩) = [bootstrap] :=
        if_pos ⟨rfl, hheldNow, hup⟩
      rw [hstep.generation, hputs]
      exact List.append_ne_nil_of_right_ne_nil _ (List.cons_ne_nil _ _)
    | closes hop hstep =>
      -- a closed link takes no frames
      rw [hstep] at hsend
      cases hsend
    | listens label hop =>
      subst hop
      exact List.append_ne_nil_of_left_ne_nil (h.begun hsend) _
    | stays hquiet hlisten hstep =>
      rw [hstep.generation]
      exact List.append_ne_nil_of_left_ne_nil (h.begun (hstep.canSend hsend)) _

/-- Every run keeps the query in front. -/
theorem primed_run (hheld : l.HoldsNewest) (h : l.Primed) (ops : List Op) : (l.run ops).Primed := by
  -- A step keeps the query in front only where frames go to the newest socket, so the two go along.
  have hboth : (l.run ops).HoldsNewest ∧ (l.run ops).Primed :=
    run_invariant (fun l => l.HoldsNewest ∧ l.Primed)
      (fun _ op h => ⟨holdsNewest_step op h.1, primed_step h.1 h.2 op⟩) ⟨hheld, h⟩ ops
  exact hboth.2

theorem primed_new (url : String) : ({ url } : Link).Primed where
  begins _ := Or.inl rfl
  begun := by rintro ⟨⟩

/-! ## All together -/

/-- What is to be said of the traffic of a run that begins with no socket. -/
structure Accounted (url : String) (ops : List Op) : Prop where
  /-- Sockets are numbered from one in the order of their opening, one for each thing that opens
  one. -/
  numbers : (({ url } : Link).run ops).sockets.map (·.generation) =
    List.range' 1 ((({ url } : Link).trace ops).countP fun entry => entry.1.opensSocket entry.2)
  /-- Whatever happens next puts frames on the newest socket only. -/
  newest : ∀ op generation, ((({ url } : Link).run ops).step op).framesOn generation ≠
    (({ url } : Link).run ops).framesOn generation →
      generation = (({ url } : Link).run ops).sockets.length
  /-- A socket carries what was put on it, in order. -/
  frames : ∀ s ∈ (({ url } : Link).run ops).sockets, s.frames =
    (({ url } : Link).trace ops).flatMap fun entry => entry.1.puts s.generation entry.2
  /-- A socket that carries anything carries the query first. -/
  query : ∀ s ∈ (({ url } : Link).run ops).sockets,
    s.frames = [] ∨ s.frames.head? = some "2[\"query\",null]"

/-- **All traffic is accounted for.** In every run, whatever reports arrive and whichever far ends
vanish, sockets are opened by calls alone, and what a socket carries is the query for each opening
that is heeded and the frames that are sent while it is the newest, with a query in front. -/
theorem traffic_accounted (url : String) (ops : List Op) : Accounted url ops := by
  have hnumbered : (({ url } : Link).run ops).Numbered := numbered_run ops (numbered_new url)
  have hheld : (({ url } : Link).run ops).HoldsNewest := holdsNewest_run (holdsNewest_new url) ops
  have hprimed : (({ url } : Link).run ops).Primed :=
    primed_run (holdsNewest_new url) (primed_new url) ops
  refine ⟨?_, fun op generation hchanged => ?_, fun s hs => ?_, fun s hs => ?_⟩
  · rw [hnumbered.sockets, length_run (numbered_new url)]
    congr 1
    exact Nat.zero_add _
  · rw [framesOn_step hheld] at hchanged
    rw [← hnumbered.newest]
    have hputs : (({ url } : Link).run ops).puts generation op ≠ [] := fun hnone =>
      hchanged (by rw [hnone, List.append_nil])
    exact newest_of_puts hheld hputs
  · rw [← framesOn_of_mem hnumbered hs, framesOn_run (holdsNewest_new url)]
    rfl
  · rw [← framesOn_of_mem hnumbered hs]
    exact hprimed.begins s.generation

/-- A frame that is sent too early and a late opening of a replaced socket leave no trace. -/
theorem traffic_accounted_replaced :
    let l : Link := { url := "ws://player/ws" }
    let ops : List Op := [.connect, .send "a", .receive ⟨1, .opened⟩, .send "b", .connect,
      .receive ⟨1, .opened⟩, .receive ⟨2, .opened⟩, .send "c", .lose 2, .send "d"]
    (l.run ops).sockets.map (·.generation) = [1, 2] ∧
      (l.run ops).sockets.map (·.frames) = [[bootstrap, "b"], [bootstrap, "c"]] ∧
      ∀ s ∈ (l.run ops).sockets, s.frames =
        (l.trace ops).flatMap fun entry => entry.1.puts s.generation entry.2 := by
  intro l ops
  have haccounted : Accounted "ws://player/ws" ops := traffic_accounted "ws://player/ws" ops
  exact ⟨haccounted.numbers, by decide +kernel, haccounted.frames⟩

end Tuner.Link
