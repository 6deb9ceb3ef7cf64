import Tuner.Proofs.Deck.Frame
import Tuner.Proofs.Link.Turn
import Tuner.Proofs.Session.Pipeline

/-!
# Who knows of the connection

Whether the player is connected is told by the link, but the deck shows a copy, and every listener
remembers what it heard last. A copy is right unless a live socket was replaced after the copy was
made, and the socket in its place is still being opened: nobody is told of that.

* **what is heard** — `Link.hears?` for one thing, `lastHeard?` up to a position of a run;
* **one step** — `announced_step` says what the link is after an announcement, and `quiet_step`
  what it can be without one;
* **copies** — `Replacing` names the one reason for a copy to be wrong, and `Copy.reads` is the
  induction over positions, the same for the deck and for a listener;
* **all together** — `connection_told`.
-/

namespace Tuner

/-! ## The flag of the deck -/

namespace Deck

variable {now : Moment} {d : Deck}

/-- No intent touches the flag. -/
theorem connected_perform (i : Intent) : (d.perform now i).deck.connected = d.connected := by
  have hanticipate : (d.anticipate now i).connected = d.connected := by
    cases i <;> rfl
  exact (perform_anticipates now i d).connected.trans hanticipate

theorem connected_apply (e : Event) : (d.apply now e).connected = d.connected := by
  cases e with
  | stations list => exact (askingOnly_onStations list).connected
  | process snapshot =>
    show (d.onSnapshot snapshot).connected = d.connected
    unfold onSnapshot onSnapshotSong
    dsimp only
    split <;> rfl
  | stationInfo info => exact (askingOnly_onStationInfo info).connected
  | _ => rfl

theorem connected_setConnected (isLive : Bool) :
    (d.setConnected now isLive).connected = isLive :=
  (askingOnly_setConnected isLive).connected

end Deck

/-! ## What is heard -/

namespace Link

variable {l : Link} {op : Op} {place : Nat}

/-- What the listener at a place hears while one thing happens. Places are counted from zero in the
order of subscription. -/
def hears? (place : Nat) (l : Link) : Op → Option Bool
  | .listen label =>
    if place = l.listeners.length then ((l.heardAt (.listen label))[0]?).map (·.2) else none
  | op => ((l.heardAt op)[place]?).map (·.2)

/-- Who listens already hears of each announcement, and of nothing else. -/
theorem hears?_of_lt (h : place < l.listeners.length) : l.hears? place op = l.announces? op := by
  cases op with
  | listen label => exact if_neg (Nat.ne_of_lt h)
  | receive e =>
    show ((l.heard e)[place]?).map (·.2) = l.announces? (.receive e)
    unfold heard announces?
    dsimp only
    cases l.inbound? e with
    | none => rfl
    | some inbound =>
      cases inbound with
      | frame text => rfl
      | connection isLive => simp [h]
  | _ => rfl

/-- Who listens hears at once how the link is. -/
theorem hears?_listen (label : String) :
    l.hears? l.listeners.length (.listen label) = some l.isLive :=
  if_pos rfl

/-- An announcement says how the link is from then on. -/
theorem announced_step {isLive : Bool} (h : l.announces? op = some isLive) :
    (l.step op).isLive = isLive ∧ (l.step op).isConnecting = false := by
  cases step_turn l op with
  | opens hop hstep =>
    rcases hop with rfl | ⟨rfl, -⟩ <;> cases h
  | goesLive hop hstep =>
    subst hop
    obtain rfl : true = isLive := Option.some.inj (announces_opened.symm.trans h)
    rw [Link.isLive, isConnecting, hstep.phase]
    exact ⟨rfl, rfl⟩
  | closes hop hstep =>
    subst hop
    obtain rfl : false = isLive := Option.some.inj (announces_closed.symm.trans h)
    rw [hstep]
    exact ⟨rfl, rfl⟩
  | listens label hop =>
    subst hop
    cases h
  | stays hquiet hlisten hstep =>
    rw [hquiet] at h
    cases h

/-- Without an announcement a link stays as it is, or it opens a socket. -/
theorem quiet_step (h : l.announces? op = none) :
    (l.step op).phase = l.phase ∨
      (l.step op).phase = .connecting ∧ (op = .connect ∨ l.phase = .closed) := by
  cases step_turn l op with
  | opens hop hstep =>
    rw [hstep]
    exact Or.inr ⟨rfl, hop.imp_right And.right⟩
  | goesLive hop hstep =>
    rw [hop, announces_opened] at h
    cases h
  | closes hop hstep =>
    rw [hop, announces_closed] at h
    cases h
  | listens label hop =>
    subst hop
    exact Or.inl rfl
  | stays hquiet hlisten hstep => exact Or.inl hstep.phase

/-- Listeners come in one at a time, at the end, and none ever goes. -/
theorem listeners_step (op : Op) :
    (l.step op).listeners = l.listeners ∨
      ∃ label, op = .listen label ∧ (l.step op).listeners = l.listeners ++ [label] := by
  cases step_turn l op with
  | opens hop hstep =>
    rw [hstep]
    exact Or.inl rfl
  | goesLive hop hstep => exact Or.inl hstep.listeners
  | closes hop hstep =>
    rw [hstep]
    exact Or.inl rfl
  | listens label hop =>
    subst hop
    exact Or.inr ⟨label, rfl, rfl⟩
  | stays hquiet hlisten hstep => exact Or.inl hstep.listeners

end Link

namespace Session

variable {s : Session} {now : Moment} {op : Op} {ops : List (Moment × Op)} {n place : Nat}

/-! ## Positions in a run -/

/-- The session after the first `n` things of a run. -/
def after (s : Session) (ops : List (Moment × Op)) (n : Nat) : Session :=
  s.run (ops.take n)

theorem after_succ (h : ops[n]? = some (now, op)) :
    s.after ops (n + 1) = (s.after ops n).step now op := by
  have htake : ops.take (n + 1) = ops.take n ++ [(now, op)] := by
    rw [List.take_add_one, h, Option.toList_some]
  rw [after, htake, run, List.foldl_append]
  rfl

/-- Behind the end of a run nothing happens any more. -/
theorem after_succ_of_none (h : ops[n]? = none) : s.after ops (n + 1) = s.after ops n := by
  rw [after, List.take_add_one, h, Option.toList_none, List.append_nil, after]

/-- The operation on the link at a position of a run. -/
def linkOpAt? (s : Session) (ops : List (Moment × Op)) (n : Nat) : Option Link.Op :=
  ops[n]?.bind fun entry => (s.after ops n).linkOp? entry.1 entry.2

/-- The change of the connection that is announced at a position of a run. -/
def announcedAt? (s : Session) (ops : List (Moment × Op)) (n : Nat) : Option Bool :=
  (s.linkOpAt? ops n).bind (s.after ops n).link.announces?

/-- What the listener at a place has heard last when a run is at a position. -/
def lastHeard? (s : Session) (ops : List (Moment × Op)) (place : Nat) : Nat → Option Bool
  | 0 => none
  | n + 1 =>
    ((s.linkOpAt? ops n).bind ((s.after ops n).link.hears? place)).or (lastHeard? s ops place n)

/-- The link goes through the operations of the positions, one by one. -/
theorem link_after_succ :
    (s.after ops (n + 1)).link =
      (s.linkOpAt? ops n).elim (s.after ops n).link (s.after ops n).link.step := by
  rw [linkOpAt?]
  cases hop : ops[n]? with
  | none =>
    rw [after_succ_of_none hop]
    rfl
  | some entry =>
    rw [after_succ hop, link_step]
    rfl

theorem wired_after (hs : s.Wired) : (s.after ops n).Wired :=
  wired_run hs _

/-- A session opens a socket over a live one only where the run says so: an intent never does. -/
theorem linkOpAt_connect (h : s.linkOpAt? ops n = some .connect) :
    ∃ now, ops[n]? = some (now, .connect) := by
  obtain ⟨⟨now, op⟩, hop, hlink⟩ := Option.bind_eq_some_iff.mp h
  refine ⟨now, hop.trans ?_⟩
  cases op with
  | connect => rfl
  | act intent =>
    obtain ⟨c, _, hsend⟩ := Option.map_eq_some_iff.mp hlink
    cases hsend
  | _ => cases hlink

/-- The deck takes over each announcement. -/
theorem connected_step (hs : s.Wired) (now : Moment) (op : Op) :
    some (s.step now op).deck.connected =
      ((s.linkOp? now op).bind s.link.announces?).or (some s.deck.connected) := by
  cases op with
  | receive e =>
    -- the link announces what the deck is told, report by report
    show some (s.hub.follow now e s.deck).connected =
      (s.link.announces? (.receive e)).or (some s.deck.connected)
    rw [follow_eq hs, Link.announces?, Link.inbound?]
    cases s.link.isCurrent e with
    | false => rfl
    | true =>
      simp only [if_true]
      cases e.report with
      | opened => exact congrArg some (Deck.connected_setConnected true)
      | closed => exact congrArg some (Deck.connected_setConnected false)
      | failed message => rfl
      | frame text =>
        show some (((Event.ofFrame? text).map Deck.Op.event).elim s.deck
          (s.deck.step now)).connected = some s.deck.connected
        cases Event.ofFrame? text with
        | none => rfl
        | some event => exact congrArg some (Deck.connected_apply event)
  | act intent =>
    have hquiet : (s.linkOp? now (.act intent)).bind s.link.announces? = none := by
      rw [linkOp?]
      cases (s.deck.perform now intent).command <;> rfl
    rw [hquiet, Option.none_or]
    exact congrArg some (Deck.connected_perform intent)
  | _ => rfl

/-- The flag of the deck changes at announcements only. -/
theorem connected_after_succ (hs : s.Wired) :
    some (s.after ops (n + 1)).deck.connected =
      (s.announcedAt? ops n).or (some (s.after ops n).deck.connected) := by
  rw [announcedAt?, linkOpAt?]
  cases hop : ops[n]? with
  | none =>
    rw [after_succ_of_none hop]
    rfl
  | some entry =>
    rw [after_succ hop]
    exact connected_step (wired_after hs) entry.1 entry.2

/-! ## Copies -/

/-- At a position `k` a live socket was replaced, and up to the position `n` the socket in its place
is being opened. -/
def Replacing (s : Session) (ops : List (Moment × Op)) (k n : Nat) : Prop :=
  (∃ now, ops[k]? = some (now, .connect)) ∧ (s.after ops k).isConnected = true ∧
    ∀ i, k < i → i ≤ n → (s.after ops i).link.isConnecting = true

/-- A live socket was replaced while there was a copy. -/
def Overtaken (s : Session) (ops : List (Moment × Op)) (copied : Nat → Prop) (n : Nat) : Prop :=
  ∃ k < n, s.Replacing ops k n ∧ copied k

variable {copied : Nat → Prop}

/-- While a copy is overtaken the link is neither live nor closed. -/
theorem Overtaken.isConnecting (h : s.Overtaken ops copied n) :
    (s.after ops n).link.isConnecting = true := by
  obtain ⟨k, hk, ⟨-, -, hsince⟩, -⟩ := h
  exact hsince n hk (Nat.le_refl n)

/-- A copy stays overtaken as long as the socket is being opened. -/
theorem Overtaken.succ (h : s.Overtaken ops copied n)
    (hconnecting : (s.after ops (n + 1)).link.isConnecting = true) :
    s.Overtaken ops copied (n + 1) := by
  obtain ⟨k, hk, ⟨hconnect, hlive, hsince⟩, hcopied⟩ := h
  refine ⟨k, by omega, ⟨hconnect, hlive, fun i hki hi => ?_⟩, hcopied⟩
  rcases Nat.lt_succ_iff_lt_or_eq.mp (Nat.lt_succ_of_le hi) with hi | rfl
  · exact hsince i hki (by omega)
  · exact hconnecting

/-- A copy that is overtaken was overtaken before, or is so from this very position on. -/
theorem Overtaken.pred (h : s.Overtaken ops copied (n + 1)) :
    s.Overtaken ops copied n ∨ (s.after ops n).isConnected = true ∧ copied n := by
  obtain ⟨k, hk, ⟨hconnect, hlive, hsince⟩, hcopied⟩ := h
  rcases Nat.lt_succ_iff_lt_or_eq.mp hk with hk | rfl
  · exact Or.inl ⟨k, hk, ⟨hconnect, hlive, fun i hki hi => hsince i hki (by omega)⟩, hcopied⟩
  · -- the live socket was replaced just now
    exact Or.inr ⟨hlive, hcopied⟩

/-- The replacement of a live socket is where it begins. -/
theorem overtaken_of_connect (hconnect : ∃ now, ops[n]? = some (now, .connect))
    (hlive : (s.after ops n).isConnected = true) (hcopied : copied n)
    (hconnecting : (s.after ops (n + 1)).link.isConnecting = true) :
    s.Overtaken ops copied (n + 1) := by
  refine ⟨n, Nat.lt_succ_self n, ⟨hconnect, hlive, fun i hni hi => ?_⟩, hcopied⟩
  obtain rfl : i = n + 1 := by omega
  exact hconnecting

theorem announced_after_succ {isLive : Bool} (h : s.announcedAt? ops n = some isLive) :
    (s.after ops (n + 1)).isConnected = isLive ∧
      (s.after ops (n + 1)).link.isConnecting = false := by
  obtain ⟨linkOp, hlink, hannounces⟩ := Option.bind_eq_some_iff.mp h
  rw [isConnected, link_after_succ, hlink, Option.elim_some]
  exact Link.announced_step hannounces

/-- Between announcements the link keeps its phase, or starts to connect from a call or from rest.
-/
theorem quiet_after_succ (h : s.announcedAt? ops n = none) :
    (s.after ops (n + 1)).link.phase = (s.after ops n).link.phase ∨
      (s.after ops (n + 1)).link.phase = .connecting ∧
        ((∃ now, ops[n]? = some (now, .connect)) ∨ (s.after ops n).link.phase = .closed) := by
  rw [link_after_succ]
  cases hlink : s.linkOpAt? ops n with
  | none => exact Or.inl rfl
  | some linkOp =>
    rw [announcedAt?, hlink, Option.bind_some] at h
    refine (Link.quiet_step h).imp_right fun ⟨hphase, hop⟩ => ⟨hphase, hop.imp_left ?_⟩
    rintro rfl
    exact linkOpAt_connect hlink

theorem not_isLive_of_isConnecting {l : Link} (h : l.isConnecting = true) : l.isLive = false := by
  have hphase : l.phase = .connecting := beq_iff_eq.mp h
  rw [Link.isLive, hphase]
  rfl

/-- The two ways for the value of a copy to be: right, or overtaken and then true. -/
inductive Reads (s : Session) (ops : List (Moment × Op)) (copied : Nat → Prop) (n : Nat)
    (value : Option Bool) : Prop where
  | right
      (hvalue : value = some (s.after ops n).isConnected)
      (hover : ¬ s.Overtaken ops copied n)
  | overtaken
      (hvalue : value = some true)
      (hover : s.Overtaken ops copied n)

variable {value : Option Bool}

/-- An announcement sets a copy right, whatever was before. -/
theorem reads_announced {isLive : Bool} (h : s.announcedAt? ops n = some isLive) :
    s.Reads ops copied (n + 1) (some isLive) := by
  obtain ⟨hlive, hconnecting⟩ := announced_after_succ h
  refine .right (by rw [hlive]) fun hover => ?_
  rw [hover.isConnecting] at hconnecting
  cases hconnecting

/-- A copy that takes over nothing stays what it was while the link keeps its phase: right if it was
right, and overtaken if it was overtaken. -/
theorem reads_of_same_phase (hreads : s.Reads ops copied n value)
    (hphase : (s.after ops (n + 1)).link.phase = (s.after ops n).link.phase) :
    s.Reads ops copied (n + 1) value := by
  have hlive : (s.after ops (n + 1)).isConnected = (s.after ops n).isConnected := by
    rw [isConnected, isConnected, Link.isLive, Link.isLive, hphase]
  have hconnecting : (s.after ops (n + 1)).link.isConnecting =
      (s.after ops n).link.isConnecting := by
    rw [Link.isConnecting, Link.isConnecting, hphase]
  cases hreads with
  | right hvalue hnot =>
    refine .right (by rw [hvalue, hlive]) fun hover => ?_
    -- the copy would have been overtaken before, or the link would have been live and connecting at
    -- once
    rcases hover.pred with hover' | ⟨hlive', -⟩
    · exact hnot hover'
    · have hdown := not_isLive_of_isConnecting hover.isConnecting
      rw [← isConnected, hlive, hlive'] at hdown
      cases hdown
  | overtaken hvalue hover =>
    exact .overtaken hvalue (hover.succ (hconnecting.trans hover.isConnecting))

/-- A copy that takes over nothing while the link begins to connect: it was true and is overtaken
now, or it was false and stays right. -/
theorem reads_of_connecting (hreads : s.Reads ops copied n value) (hcopied : copied n)
    (hphase : (s.after ops (n + 1)).link.phase = .connecting)
    (hop : (∃ now, ops[n]? = some (now, .connect)) ∨ (s.after ops n).link.phase = .closed) :
    s.Reads ops copied (n + 1) value := by
  have hconnecting : (s.after ops (n + 1)).link.isConnecting = true := by
    rw [Link.isConnecting, hphase]
    rfl
  have hdown : (s.after ops (n + 1)).isConnected = false := not_isLive_of_isConnecting hconnecting
  cases hreads with
  | right hvalue hnot =>
    cases hlive : (s.after ops n).isConnected with
    | true =>
      -- The copy was right until now, and nobody tells of the replacement.
      rw [hlive] at hvalue
      rcases hop with hconnect | hclosed
      · exact .overtaken hvalue (overtaken_of_connect hconnect hlive hcopied hconnecting)
      · rw [isConnected, Link.isLive, hclosed] at hlive
        cases hlive
    | false =>
      refine .right (by rw [hvalue, hlive, hdown]) fun hover => ?_
      rcases hover.pred with hover | ⟨hlive', -⟩
      · exact hnot hover
      · rw [hlive] at hlive'
        cases hlive'
  | overtaken hvalue hover => exact .overtaken hvalue (hover.succ hconnecting)

/-- A copy of the flag: it is made with the right value, and takes over each announcement. -/
structure Copy (s : Session) (ops : List (Moment × Op)) (copied : Nat → Prop)
    (copy : Nat → Option Bool) : Prop where
  start : copied 0 → copy 0 = some (s.after ops 0).isConnected
  joins : ∀ n, ¬ copied n → copied (n + 1) → copy (n + 1) = some (s.after ops (n + 1)).isConnected
  stays : ∀ n, copied n → copied (n + 1)
  follows : ∀ n, copied n → copy (n + 1) = (s.announcedAt? ops n).or (copy n)

variable {copy : Nat → Option Bool}

/-- What was not a copy before cannot have been overtaken, since a copy stays one. -/
theorem Copy.not_overtaken (hcopy : s.Copy ops copied copy) (h : ¬ copied n) :
    ¬ s.Overtaken ops copied (n + 1) := by
  rintro ⟨k, hk, -, hcopied⟩
  have hlater : ∀ m, k ≤ m → copied m := by
    intro m hm
    induction hm with
    | refl => exact hcopied
    | step _ ih => exact hcopy.stays _ ih
  exact h (hlater n (Nat.le_of_lt_succ hk))

/-- **A copy is right or overtaken, at every position.** Induction over the positions: an
announcement sets it right, and between announcements the phase says what becomes of it. -/
theorem Copy.reads (hcopy : s.Copy ops copied copy) (h : copied n) :
    s.Reads ops copied n (copy n) := by
  induction n with
  | zero =>
    refine .right (hcopy.start h) ?_
    rintro ⟨k, hk, -⟩
    omega
  | succ n ih =>
    -- a copy before this position, or one that is made at it
    by_cases hbefore : copied n
    · rw [hcopy.follows n hbefore]
      cases hannounced : s.announcedAt? ops n with
      | some isLive => exact reads_announced hannounced
      | none =>
        rw [Option.none_or]
        rcases quiet_after_succ hannounced with hphase | ⟨hphase, hop⟩
        · exact reads_of_same_phase (ih hbefore) hphase
        · exact reads_of_connecting (ih hbefore) hbefore hphase hop
    · exact .right (hcopy.joins n hbefore h) (hcopy.not_overtaken hbefore)

/-- So a copy is wrong exactly if it is overtaken, as it is true then and the link is not live. -/
theorem Copy.ne_iff (hcopy : s.Copy ops copied copy) (h : copied n) :
    copy n ≠ some (s.after ops n).isConnected ↔ s.Overtaken ops copied n := by
  cases hcopy.reads h with
  | right hvalue hnot => exact iff_of_false (fun hne => hne hvalue) hnot
  | overtaken hvalue hover =>
    refine iff_of_true (fun heq => ?_) hover
    have hdown : (s.after ops n).isConnected = false :=
      not_isLive_of_isConnecting hover.isConnecting
    rw [hvalue, hdown] at heq
    cases heq

/-! ## The deck and the listeners -/

/-- The flag of the deck is a copy from the start. -/
theorem copy_deck (hs : s.Wired) (hstart : s.deck.connected = s.isConnected) :
    s.Copy ops (fun _ => True) fun n => some (s.after ops n).deck.connected where
  start _ := congrArg some hstart
  joins _ h _ := absurd trivial h
  stays _ h := h
  follows _ _ := connected_after_succ hs

/-- The listeners, one position further. -/
theorem listeners_after_succ (s : Session) (ops : List (Moment × Op)) (n : Nat) :
    (s.after ops (n + 1)).link.listeners = (s.after ops n).link.listeners ∨
      ∃ label, s.linkOpAt? ops n = some (.listen label) ∧
        (s.after ops (n + 1)).link.listeners = (s.after ops n).link.listeners ++ [label] := by
  rw [link_after_succ]
  cases hlink : s.linkOpAt? ops n with
  | none => exact Or.inl rfl
  | some linkOp =>
    refine (Link.listeners_step linkOp).imp_right ?_
    rintro ⟨label, rfl, hlisteners⟩
    exact ⟨label, rfl, hlisteners⟩

/-- A listener begins with a copy that is right. -/
theorem lastHeard?_joins {label : String} (hlink : s.linkOpAt? ops n = some (.listen label)) :
    s.lastHeard? ops (s.after ops n).link.listeners.length (n + 1) =
      some (s.after ops (n + 1)).isConnected := by
  have hlive : (s.after ops (n + 1)).isConnected = (s.after ops n).link.isLive := by
    rw [isConnected, link_after_succ, hlink]
    rfl
  rw [lastHeard?, hlink, Option.bind_some, Link.hears?_listen, Option.some_or, hlive]

/-- What a listener has heard last is a copy from its subscription on. -/
theorem copy_listener (hstart : s.link.listeners = []) (place : Nat) :
    s.Copy ops (fun n => place < (s.after ops n).link.listeners.length)
      (s.lastHeard? ops place) where
  start h := by
    have hnone : (s.after ops 0).link.listeners = [] := hstart
    rw [hnone] at h
    cases h
  joins n hbefore h := by
    rcases listeners_after_succ s ops n with hsame | ⟨label, hlink, hmore⟩
    · rw [hsame] at h
      exact absurd h hbefore
    · rw [hmore, List.length_append, List.length_singleton] at h
      -- the place was taken at this position
      obtain rfl : place = (s.after ops n).link.listeners.length := by omega
      exact lastHeard?_joins hlink
  stays n h := by
    rcases listeners_after_succ s ops n with hsame | ⟨label, -, hmore⟩
    · rwa [hsame]
    · rw [hmore, List.length_append]
      omega
  follows n h := by
    rw [lastHeard?, announcedAt?]
    congr 1
    cases s.linkOpAt? ops n with
    | none => rfl
    | some linkOp => exact Link.hears?_of_lt h

/-- **The connection is told truthfully, but for one case.** At every position of every run, the
flag of the deck is right unless a live socket was replaced and the one in its place is still being
opened; and so is the last thing that a listener has heard, unless it listened when the live socket
was replaced. -/
theorem connection_told (now : Moment) (url : String) (deck : Deck) (ops : List (Moment × Op))
    (n : Nat) :
    let s := new now url deck
    ((s.after ops n).deck.connected ≠ (s.after ops n).isConnected ↔
        ∃ k < n, s.Replacing ops k n) ∧
      ∀ place < (s.after ops n).link.listeners.length,
        (s.lastHeard? ops place n ≠ some (s.after ops n).isConnected ↔
          ∃ k < n, s.Replacing ops k n ∧ place < (s.after ops k).link.listeners.length) := by
  intro s
  have hdeck : s.deck.connected = s.isConnected := Deck.connected_setConnected false
  have hflag : some (s.after ops n).deck.connected ≠ some (s.after ops n).isConnected ↔
      s.Overtaken ops (fun _ => True) n :=
    (copy_deck (wired_new now url deck) hdeck).ne_iff trivial
  refine ⟨?_, fun place hplace => (copy_listener rfl place).ne_iff hplace⟩
  simpa only [Overtaken, and_true, ne_eq, Option.some.injEq] using hflag

/-- While a replaced socket is opened again, a listener from before that remembers a connection. -/
theorem connection_told_replaced :
    let s := new 0 "ws://player/ws" (Deck.new 6 4000000000)
    let ops : List (Moment × Op) := [(0, .connect), (1, .receive ⟨1, .opened⟩), (2, .listen "a"),
      (3, .connect), (4, .listen "b")]
    s.Replacing ops 3 5 ∧ (s.after ops 5).link.listeners = ["a", "b"] ∧
      (s.after ops 5).deck.connected ≠ (s.after ops 5).isConnected ∧
      s.lastHeard? ops 0 5 ≠ some (s.after ops 5).isConnected ∧
      s.lastHeard? ops 1 5 = some (s.after ops 5).isConnected := by
  intro s ops
  have hreplacing : s.Replacing ops 3 5 := by
    refine ⟨⟨3, rfl⟩, rfl, fun i hi hi' => ?_⟩
    obtain rfl | rfl : i = 4 ∨ i = 5 := by omega
    · rfl
    · rfl
  obtain ⟨hdeck, hlisteners⟩ := connection_told 0 "ws://player/ws" (Deck.new 6 4000000000) ops 5
  refine ⟨hreplacing, rfl, hdeck.mpr ⟨3, by omega, hreplacing⟩,
    (hlisteners 0 (by decide)).mpr ⟨3, by omega, hreplacing, by decide⟩, ?_⟩
  -- The second listener came after the only connect that replaced a live socket.
  refine Decidable.byContradiction fun hne => ?_
  have hfew : ∀ k < 5, (s.after ops k).link.listeners.length ≤ 1 := by decide +kernel
  obtain ⟨k, hk, -, hplace⟩ := (hlisteners 1 (by decide)).mp hne
  exact absurd hplace (Nat.not_lt.mpr (hfew k hk))

/-- The flag is wrong right after a live socket was replaced, and the listener was not told. -/
theorem connection_not_told :
    let s := new 0 "ws://player/ws" (Deck.new 6 4000000000)
    let ops : List (Moment × Op) := [(0, .listen "a"), (1, .connect),
      (2, .receive ⟨1, .opened⟩), (3, .connect)]
    (s.run ops).deck.connected = true ∧ (s.run ops).isConnected = false ∧
      s.lastHeard? ops 0 4 = some true := by
  intro s ops
  exact ⟨rfl, rfl, rfl⟩

end Session

end Tuner
