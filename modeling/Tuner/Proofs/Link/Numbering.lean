import Mathlib.Data.List.Nodup
import Tuner.Link

/-!
# The numbers of sockets

A report counts only if it carries the number of the newest socket. That number is at all times the
count of the sockets so far, which are numbered from one in the order of their opening; sending,
receiving and vanishing leave the count and the numbers alone.
-/

namespace Tuner.Link

variable {l : Link}

/-- The sockets are numbered from one, and the link remembers the last number. -/
structure Numbered (l : Link) : Prop where
  newest : l.generation = l.sockets.length
  sockets : l.sockets.map (·.generation) = List.range' 1 l.sockets.length

/-- A number stands for one socket. -/
theorem Numbered.eq_of_generation_eq (h : l.Numbered) {s t : Socket} (hs : s ∈ l.sockets)
    (ht : t ∈ l.sockets) (hsame : s.generation = t.generation) : s = t := by
  have hnodup : (l.sockets.map (·.generation)).Nodup := by
    rw [h.sockets]
    exact List.nodup_range'
  exact List.inj_on_of_nodup_map hnodup hs ht hsame

/-- No socket has a number beyond the last one given out. -/
theorem Numbered.bounds (h : l.Numbered) {s : Socket} (hs : s ∈ l.sockets) :
    0 < s.generation ∧ s.generation ≤ l.generation := by
  have hmem : s.generation ∈ l.sockets.map (·.generation) := List.mem_map_of_mem hs
  rw [h.sockets, List.mem_range'_1] at hmem
  rw [h.newest]
  omega

/-- The socket that was opened last has the last number. What counts as current is the newest
socket, then. -/
theorem Numbered.getLast? (h : l.Numbered) {s : Socket} (hs : l.sockets.getLast? = some s) :
    s.generation = l.generation := by
  have hlast : (l.sockets.map (·.generation)).getLast? = some s.generation := by
    rw [List.getLast?_map, hs]
    rfl
  rw [h.sockets, ← h.newest, List.getLast?_range'] at hlast
  split at hlast
  · cases hlast
  · have hsame : 1 + l.generation - 1 = s.generation := Option.some.inj hlast
    omega

/-- Numbers stay when sockets change in other respects. -/
theorem numbered_map {change : Socket → Socket}
    (hchange : ∀ s, (change s).generation = s.generation) (h : l.Numbered) :
    ({ l with sockets := l.sockets.map change } : Link).Numbered := by
  have hnumbers : (l.sockets.map change).map (·.generation) = l.sockets.map (·.generation) := by
    rw [List.map_map]
    exact List.map_congr_left fun s _ => hchange s
  refine ⟨h.newest.trans (List.length_map _).symm, ?_⟩
  show (l.sockets.map change).map (·.generation) = List.range' 1 (l.sockets.map change).length
  rw [hnumbers, List.length_map]
  exact h.sockets

theorem numbered_put (generation : Nat) (frame : String) (h : l.Numbered) :
    (l.put generation frame).Numbered :=
  numbered_map (fun s => by split <;> rfl) h

theorem numbered_send (frame : String) (h : l.Numbered) : (l.send frame).Numbered := by
  unfold send
  split
  · split
    · -- a frame that can be sent
      exact numbered_put _ frame h
    · exact h
  · exact h

/-- The one way in which a socket comes in: it gets the next number. -/
theorem numbered_connect (h : l.Numbered) : l.connect.Numbered := by
  have hlength : l.connect.sockets.length = l.sockets.length + 1 := by
    simp only [connect, List.length_append, List.length_singleton]
  constructor
  · rw [hlength, ← h.newest]
    rfl
  · -- The new number is one more than the last, which is the count so far.
    rw [hlength, List.range'_concat, ← h.sockets]
    simp only [connect, List.map_append, List.map_singleton, h.newest]
    congr 2
    omega

/-- Reports open no socket, and the query that follows an opening is only one more frame. -/
theorem numbered_receive (e : SocketEvent) (h : l.Numbered) : (l.receive e).Numbered := by
  unfold receive
  split
  · cases e.report with
    | opened => exact numbered_send _ ⟨h.newest, h.sockets⟩
    | frame text => exact h
    | failed message => exact h
    | closed => exact ⟨h.newest, h.sockets⟩
  · exact h

theorem numbered_vanish (h : l.Numbered) : l.vanish.Numbered :=
  numbered_map (fun _ => rfl) h

theorem numbered_lose (generation : Nat) (h : l.Numbered) : (l.lose generation).Numbered :=
  numbered_map (fun s => by split <;> rfl) h

/-- All seven things that can happen keep the numbers. Those that touch the sockets at all open one
or change them in other respects. -/
theorem numbered_step (op : Op) (h : l.Numbered) : (l.step op).Numbered := by
  cases op with
  | connect => exact numbered_connect h
  | reconnect =>
    show l.reconnect.Numbered
    by_cases hphase : l.phase = .closed
    · rw [reconnect_of_closed hphase]
      exact numbered_connect h
    · rw [reconnect_of_ne_closed hphase]
      exact h
  | send frame => exact numbered_send frame h
  | listen label => exact ⟨h.newest, h.sockets⟩
  | receive e => exact numbered_receive e h
  | vanish => exact numbered_vanish h
  | lose generation => exact numbered_lose generation h

/-- In every state of a link, sockets are numbered in the order of their opening. -/
theorem numbered_run (ops : List Op) (h : l.Numbered) : (l.run ops).Numbered :=
  run_invariant Numbered (fun _ op => numbered_step op) h ops

theorem numbered_new (url : String) : ({ url } : Link).Numbered :=
  ⟨rfl, rfl⟩

end Tuner.Link
