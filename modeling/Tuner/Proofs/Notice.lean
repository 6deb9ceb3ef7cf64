import Mathlib.Data.Finset.Card
import Tuner.Notice

/-!
# Which notices wait

A queue of notices is changed in three ways that could get into each other's way: a message that
comes again takes the place of the one before, a ninth message drives out the oldest, and notices
expire. The history alone says what is left. `Waits` is the condition for one push, and `waiting`
lists the notices of the pushes that meet it.

The condition asks for fewer than eight *messages* since a push, while the queue counts the
*notices* that it holds. The two numbers agree as long as a notice waits
(`length_waiting_eq_card`): what was pushed after it expires after it, so nothing pushed since can
be missing but for a message that came again. `queue_run` is the induction over the history.
-/

namespace Tuner.Notices

/-! ## The pushes of a history -/

def Op.message? : Op → Option String
  | .push _ message _ => some message
  | .expire _ => none
  | .drain => none

def Op.pushed? : Op → Option Moment
  | .push now _ _ => some now
  | .expire _ => none
  | .drain => none

/-- The messages of a history, one for each push. -/
def messages (ops : List Op) : List String :=
  ops.filterMap Op.message?

/-- The moments of the pushes. -/
def pushes (ops : List Op) : List Moment :=
  ops.filterMap Op.pushed?

/-- What leaves a notice in the queue: no drain, no push of the same message, and no moment at which
it has expired. -/
def Op.Spares (t : Notice) : Op → Prop
  | .push _ message _ => t.message ≠ message
  | .expire now => now < t.expires
  | .drain => False

instance (t : Notice) : DecidablePred (Op.Spares t) := fun op =>
  match op with
  | .push _ message _ => inferInstanceAs (Decidable (t.message ≠ message))
  | .expire now => inferInstanceAs (Decidable (now < t.expires))
  | .drain => inferInstanceAs (Decidable False)

/-- Whether a notice still waits after what has happened since its push. All of that spares it, and
its message is among the eight that were pushed last. -/
structure Waits (t : Notice) (since : List Op) : Prop where
  spared : ∀ op ∈ since, op.Spares t
  recent : (messages since).toFinset.card < capacity

instance (t : Notice) (since : List Op) : Decidable (Waits t since) :=
  decidable_of_iff ((∀ op ∈ since, op.Spares t) ∧ (messages since).toFinset.card < capacity)
    ⟨fun h => ⟨h.1, h.2⟩, fun h => ⟨h.spared, h.recent⟩⟩

/-- The notices that wait after a history, in the order of their pushes. -/
def waiting (lifetime : Span) : List Op → List Notice
  | [] => []
  | .push now message severity :: since =>
    if Waits ⟨message, severity, now + lifetime⟩ since then
      ⟨message, severity, now + lifetime⟩ :: waiting lifetime since
    else waiting lifetime since
  | .expire _ :: since => waiting lifetime since
  | .drain :: since => waiting lifetime since

variable {lifetime : Span} {ops since : List Op} {op : Op} {t u : Notice} {now : Moment}
variable {message : String} {severity : Severity}

theorem mem_messages_of_push (h : .push now message severity ∈ ops) : message ∈ messages ops :=
  List.mem_filterMap.mpr ⟨_, h, rfl⟩

/-- As long as a notice waits, its message has not come again. -/
theorem Waits.notMem (h : Waits t since) : t.message ∉ messages since := by
  intro hmem
  obtain ⟨op, hop, hmessage⟩ := List.mem_filterMap.mp hmem
  cases op with
  | push now message severity => exact h.spared _ hop (Option.some.inj hmessage).symm
  | expire now => cases hmessage
  | drain => cases hmessage

/-- The further back, the more messages there are since. -/
theorem card_messages_le_cons (op : Op) (since : List Op) :
    (messages since).toFinset.card ≤ (messages (op :: since)).toFinset.card := by
  refine Finset.card_le_card fun message h => ?_
  rw [List.mem_toFinset] at h ⊢
  exact ((List.sublist_cons_self op since).filterMap Op.message?).subset h

/-- What has waited for all of a history has waited for the end of it. -/
theorem Waits.tail (h : Waits t (op :: since)) : Waits t since where
  spared other hother := h.spared other (List.mem_cons_of_mem op hother)
  recent := (card_messages_le_cons op since).trans_lt h.recent

/-! ## The notices that wait -/

/-- Each notice that waits comes from a push. -/
theorem exists_push_of_mem_waiting (h : t ∈ waiting lifetime ops) :
    ∃ now, .push now t.message t.severity ∈ ops ∧ t.expires = now + lifetime := by
  induction ops with
  | nil => cases h
  | cons op since ih =>
    have hlater : t ∈ waiting lifetime since →
        ∃ now, .push now t.message t.severity ∈ op :: since ∧ t.expires = now + lifetime :=
      fun h => (ih h).imp fun now hnow => ⟨List.mem_cons_of_mem op hnow.1, hnow.2⟩
    cases op with
    | push now message severity =>
      rw [waiting] at h
      split at h
      · rcases List.mem_cons.mp h with rfl | h
        · exact ⟨now, List.mem_cons_self, rfl⟩
        · exact hlater h
      · exact hlater h
    | expire now => exact hlater h
    | drain => exact hlater h

theorem mem_messages_of_mem_waiting (h : message ∈ (waiting lifetime ops).map (·.message)) :
    message ∈ messages ops := by
  obtain ⟨t, ht, rfl⟩ := List.mem_map.mp h
  obtain ⟨now, hpush, -⟩ := exists_push_of_mem_waiting ht
  exact mem_messages_of_push hpush

/-- No two notices that wait have one message: the earlier of them would have given way. -/
theorem nodup_waiting (lifetime : Span) (ops : List Op) :
    ((waiting lifetime ops).map (·.message)).Nodup := by
  induction ops with
  | nil => exact List.nodup_nil
  | cons op since ih =>
    cases op with
    | push now message severity =>
      rw [waiting]
      split
      · next hwaits =>
        -- another notice of the same message would come from a later push
        exact List.nodup_cons.mpr
          ⟨fun h => hwaits.notMem (mem_messages_of_mem_waiting h), ih⟩
      · exact ih
    | expire now => exact ih
    | drain => exact ih

/-- As long as a notice waits, every message that came after it waits as well. -/
theorem mem_messages_waiting (hwaits : Waits t since)
    (hlater : ∀ now ∈ pushes since, t.expires < now + lifetime) :
    message ∈ (waiting lifetime since).map (·.message) ↔ message ∈ messages since := by
  induction since with
  | nil => rfl
  | cons op since ih =>
    have ih := ih hwaits.tail fun now hnow =>
      hlater now (((List.sublist_cons_self op since).filterMap Op.pushed?).subset hnow)
    cases op with
    | expire now => exact ih
    | drain => exact ih
    | push now latest severity =>
      have hmessages : messages (.push now latest severity :: since) =
          latest :: messages since := rfl
      rw [hmessages, waiting]
      by_cases hagain : latest ∈ messages since
      · -- The message came once more, and only the last of its notices is left.
        rw [if_neg fun h => h.notMem hagain, ih, List.mem_cons]
        refine ⟨Or.inr, ?_⟩
        rintro (rfl | h)
        · exact hagain
        · exact h
      · have hexpires : t.expires < now + lifetime := hlater now List.mem_cons_self
        have hlatest : Waits ⟨latest, severity, now + lifetime⟩ since := by
          refine ⟨fun op hop => ?_, hwaits.tail.recent⟩
          have hspares := hwaits.tail.spared op hop
          cases op with
          | push other message severity =>
            rintro rfl
            exact hagain (mem_messages_of_push hop)
          | expire moment => exact lt_trans hspares hexpires
          | drain => exact hspares
        rw [if_pos hlatest, List.map_cons, List.mem_cons, List.mem_cons, ih]

/-- So behind a notice that waits there are as many notices as messages. -/
theorem length_waiting_eq_card (hwaits : Waits t since)
    (hlater : ∀ now ∈ pushes since, t.expires < now + lifetime) :
    (waiting lifetime since).length = (messages since).toFinset.card := by
  rw [← List.length_map (·.message), ← List.toFinset_card_of_nodup (nodup_waiting lifetime since)]
  congr 1
  ext message
  rw [List.mem_toFinset, List.mem_toFinset]
  exact mem_messages_waiting hwaits hlater

/-! ## One more operation -/

/-- A notice goes on waiting if the next thing spares it, and if it is not one message too many. -/
theorem waits_concat : Waits t (since ++ [op]) ↔
    Waits t since ∧ op.Spares t ∧ (messages (since ++ [op])).toFinset.card < capacity := by
  constructor
  · intro h
    have hcard : (messages since).toFinset.card ≤ (messages (since ++ [op])).toFinset.card := by
      rw [messages, messages, List.filterMap_append, List.toFinset_append]
      exact Finset.card_le_card Finset.subset_union_left
    exact ⟨⟨fun other hother => h.spared other (List.mem_append_left _ hother),
      hcard.trans_lt h.recent⟩, h.spared op List.mem_concat_self, h.recent⟩
  · rintro ⟨hwaits, hspares, hrecent⟩
    refine ⟨fun other hother => ?_, hrecent⟩
    rcases List.mem_append.mp hother with hother | hother
    · exact hwaits.spared other hother
    · rwa [List.mem_singleton.mp hother]

/-- What is no push leaves of the notices those that it spares. -/
theorem waiting_concat_quiet (h : op.message? = none) :
    waiting lifetime (ops ++ [op]) = (waiting lifetime ops).filter (op.Spares ·) := by
  induction ops with
  | nil =>
    cases op with
    | push now message severity => cases h
    | expire now => rfl
    | drain => rfl
  | cons first since ih =>
    cases first with
    | push now message severity =>
      have hmessages : messages (since ++ [op]) = messages since := by
        rw [messages, List.filterMap_append, List.filterMap_cons_none h, List.filterMap_nil,
          List.append_nil, messages]
      rw [List.cons_append, waiting, waiting, ih]
      by_cases hwaits : Waits ⟨message, severity, now + lifetime⟩ since
      · rw [if_pos hwaits, List.filter_cons]
        refine if_congr ?_ rfl rfl
        rw [waits_concat, hmessages, decide_eq_true_eq]
        exact ⟨fun h => h.2.1, fun h => ⟨hwaits, h, hwaits.recent⟩⟩
      · rw [if_neg hwaits, if_neg fun h => hwaits (waits_concat.mp h).1]
    | expire now => exact ih
    | drain => exact ih

/-- Where there are too many, the oldest is dropped before any other. -/
theorem drop_cons_excess (t : Notice) (queue : List Notice) :
    (t :: queue).drop ((t :: queue).length - capacity) =
      if queue.length < capacity then t :: queue
      else queue.drop (queue.length - capacity) := by
  rw [List.length_cons]
  split
  · next hfew =>
    rw [Nat.sub_eq_zero_of_le hfew, List.drop_zero]
  · next hmany =>
    rw [Nat.sub_add_comm (Nat.le_of_not_lt hmany), List.drop_succ_cons]

/-- Behind the notices that a push spares, the new one makes one notice for each message. -/
theorem length_pushed (hwaits : Waits t since)
    (hlater : ∀ now ∈ pushes since, t.expires < now + lifetime) (hu : u.message = message) :
    ((waiting lifetime since).filter ((Op.push now message severity).Spares ·) ++ [u]).length =
      (messages (since ++ [.push now message severity])).toFinset.card := by
  have hmap : ((waiting lifetime since).filter ((Op.push now message severity).Spares ·) ++
        [u]).map (·.message) =
      ((waiting lifetime since).map (·.message)).filter (· ≠ message) ++ [message] := by
    rw [List.map_append, List.filter_map, List.map_singleton, hu]
    rfl
  have hnodup : (((waiting lifetime since).map (·.message)).filter (· ≠ message) ++
      [message]).Nodup := by
    refine List.nodup_append.mpr ⟨(nodup_waiting lifetime since).filter _, List.nodup_singleton _,
      fun other hother same hsame => ?_⟩
    rw [List.mem_singleton.mp hsame]
    simpa using (List.mem_filter.mp hother).2
  rw [← List.length_map (·.message), hmap, ← List.toFinset_card_of_nodup hnodup]
  congr 1
  ext other
  have hmem : other ∈ (waiting lifetime since).map (·.message) ↔ other ∈ messages since :=
    mem_messages_waiting hwaits hlater
  rw [messages, List.filterMap_append, List.toFinset_append, List.toFinset_append,
    Finset.mem_union, Finset.mem_union, List.mem_toFinset, List.mem_toFinset, List.mem_filter,
    hmem, messages]
  by_cases hother : other = message <;> simp [hother, Op.message?]

/-- What a push leaves, in the words of this module. -/
theorem queue_push (queue : List Notice) :
    (Notices.push now message severity ⟨queue, lifetime⟩).queue =
      let all := queue.filter ((Op.push now message severity).Spares ·) ++
        [⟨message, severity, now + lifetime⟩]
      all.drop (all.length - capacity) :=
  rfl

/-- A push leaves the notices that it spares with the new one behind them, but for the oldest where
that makes one too many. -/
theorem waiting_concat_push (hclock : (pushes ops).Pairwise (· < ·)) :
    waiting lifetime (ops ++ [.push now message severity]) =
      (Notices.push now message severity ⟨waiting lifetime ops, lifetime⟩).queue := by
  induction ops with
  | nil => rfl
  | cons first since ih =>
    cases first with
    | expire moment => exact ih hclock
    | drain => exact ih hclock
    | push earlier text level =>
      obtain ⟨hearlier, hclock⟩ := List.pairwise_cons.mp hclock
      let t : Notice := ⟨text, level, earlier + lifetime⟩
      have hlater : ∀ moment ∈ pushes since, t.expires < moment + lifetime :=
        fun moment h => Int.add_lt_add_right (hearlier moment h) _
      rw [List.cons_append, waiting, waiting, ih hclock, queue_push, queue_push]
      dsimp only
      -- the oldest notice, if it waited until now: the push may catch it, or drop it as one too
      -- many
      by_cases hwaits : Waits t since
      · rw [if_pos hwaits, List.filter_cons]
        by_cases hspares : (Op.push now message severity).Spares t
        · rw [if_pos (decide_eq_true hspares), List.cons_append, drop_cons_excess]
          have hlength : ((waiting lifetime since).filter
                ((Op.push now message severity).Spares ·) ++
                  [(⟨message, severity, now + lifetime⟩ : Notice)]).length =
              (messages (since ++ [.push now message severity])).toFinset.card :=
            length_pushed hwaits hlater rfl
          generalize (waiting lifetime since).filter ((Op.push now message severity).Spares ·) ++
            [⟨message, severity, now + lifetime⟩] = all at hlength ⊢
          by_cases hfew : all.length < capacity
          · -- there is room for it
            have hstill : Waits t (since ++ [.push now message severity]) :=
              waits_concat.mpr ⟨hwaits, hspares, hlength ▸ hfew⟩
            rw [if_pos hstill, if_pos hfew, Nat.sub_eq_zero_of_le (Nat.le_of_lt hfew),
              List.drop_zero]
          · -- it is the one too many
            have hnot : ¬ Waits t (since ++ [.push now message severity]) :=
              fun h => hfew (hlength ▸ h.recent)
            rw [if_neg hnot, if_neg hfew]
        · rw [if_neg (mt of_decide_eq_true hspares),
            if_neg fun h => hspares (waits_concat.mp h).2.1]
      · rw [if_neg hwaits, if_neg fun h => hwaits (waits_concat.mp h).1]

/-! ## Runs -/

/-- **One step.** An expiry and a drain leave what they spare, and a push is the subject above. -/
theorem step_waiting (op : Op) (hclock : (pushes ops).Pairwise (· < ·)) :
    (Notices.mk (waiting lifetime ops) lifetime).step op =
      ⟨waiting lifetime (ops ++ [op]), lifetime⟩ := by
  cases op with
  | push now message severity =>
    rw [waiting_concat_push hclock]
    rfl
  | expire now =>
    rw [waiting_concat_quiet rfl]
    rfl
  | drain =>
    have hnone : (waiting lifetime ops).filter (Op.drain.Spares ·) = [] :=
      List.filter_eq_nil_iff.mpr fun t _ h => of_decide_eq_true (p := False) h
    rw [waiting_concat_quiet rfl, hnone]
    rfl

/-- **The queue is what waits.** Induction from the end of the history, as the queue is told by
looking back from there. -/
theorem run_eq_waiting (lifetime : Span) (ops : List Op)
    (hclock : (pushes ops).Pairwise (· < ·)) :
    (empty lifetime).run ops = ⟨waiting lifetime ops, lifetime⟩ := by
  induction ops using List.reverseRecOn with
  | nil => rfl
  | append_singleton ops op ih =>
    have hbefore : (pushes ops).Pairwise (· < ·) := by
      rw [pushes, List.filterMap_append] at hclock
      exact (List.pairwise_append.mp hclock).1
    have hrun : (empty lifetime).run (ops ++ [op]) = ((empty lifetime).run ops).step op :=
      List.foldl_concat _ _ _ _
    rw [hrun, ih hbefore, step_waiting op hbefore]

/-- A queue is never longer than its capacity: the oldest notice in it has fewer than eight messages
behind it. -/
theorem length_waiting_le (hclock : (pushes ops).Pairwise (· < ·)) :
    (waiting lifetime ops).length ≤ capacity := by
  induction ops with
  | nil => exact Nat.zero_le _
  | cons first since ih =>
    cases first with
    | expire now => exact ih hclock
    | drain => exact ih hclock
    | push now message severity =>
      obtain ⟨hearlier, hclock⟩ := List.pairwise_cons.mp hclock
      rw [waiting]
      split
      · next hwaits =>
        rw [List.length_cons, length_waiting_eq_card hwaits
          fun moment h => Int.add_lt_add_right (hearlier moment h) _]
        exact hwaits.recent
      · exact ih hclock

/-- Notices expire in the order of their pushes, since all have the same lifetime. -/
theorem expires_waiting (hclock : (pushes ops).Pairwise (· < ·)) :
    ((waiting lifetime ops).map (·.expires)).Pairwise (· < ·) := by
  induction ops with
  | nil => exact .nil
  | cons first since ih =>
    cases first with
    | expire now => exact ih hclock
    | drain => exact ih hclock
    | push now message severity =>
      obtain ⟨hearlier, hclock⟩ := List.pairwise_cons.mp hclock
      rw [waiting]
      split
      · refine List.pairwise_cons.mpr ⟨fun expires h => ?_, ih hclock⟩
        obtain ⟨t, ht, rfl⟩ := List.mem_map.mp h
        obtain ⟨moment, hpush, hexpires⟩ := exists_push_of_mem_waiting ht
        have hmem : moment ∈ pushes since := List.mem_filterMap.mpr ⟨_, hpush, rfl⟩
        rw [hexpires]
        exact Int.add_lt_add_right (hearlier moment hmem) _
      · exact ih hclock

/-! ## Expiry -/

variable {n : Notices}

/-- Where notices expire in the order of the queue, those that have expired stand before the
others. -/
theorem expire_eq_dropWhile (h : (n.queue.map (·.expires)).Pairwise (· < ·)) (now : Moment) :
    (n.expire now).queue = n.queue.dropWhile (·.expires ≤ now) := by
  show n.queue.filter (now < ·.expires) = _
  generalize n.queue = queue at h ⊢
  induction queue with
  | nil => rfl
  | cons t rest ih =>
    obtain ⟨hrest, hrising⟩ := List.pairwise_cons.mp h
    by_cases hexpired : t.expires ≤ now
    · rw [List.filter_cons_of_neg (by simpa using hexpired),
        List.dropWhile_cons_of_pos (by simpa using hexpired), ih hrising]
    · -- The first that has not expired is followed by such as expire later still.
      have hall : ∀ u ∈ t :: rest, decide (now < u.expires) = true := by
        intro u hu
        refine decide_eq_true ?_
        rcases List.mem_cons.mp hu with rfl | hu
        · exact not_le.mp hexpired
        · exact (not_le.mp hexpired).trans (hrest u.expires (List.mem_map_of_mem hu))
      rw [List.filter_eq_self.mpr hall, List.dropWhile_cons_of_neg (by simpa using hexpired)]

/-- The one at the front expires first, so it tells whether any has. -/
theorem anyExpired_iff (h : (n.queue.map (·.expires)).Pairwise (· < ·)) (now : Moment) :
    n.anyExpired now = true ↔ n.queue.takeWhile (·.expires ≤ now) ≠ [] := by
  rw [anyExpired]
  generalize n.queue = queue at h ⊢
  cases queue with
  | nil => simp
  | cons t rest =>
    obtain ⟨hrest, -⟩ := List.pairwise_cons.mp h
    by_cases hexpired : t.expires ≤ now
    · simp [hexpired]
    · have hlater : ∀ u ∈ rest, now < u.expires := fun u hu =>
        (not_le.mp hexpired).trans (hrest u.expires (List.mem_map_of_mem hu))
      simpa [hexpired] using hlater

/-- What is to be said of a queue after a history. -/
structure Recent (lifetime : Span) (ops : List Op) (n : Notices) : Prop where
  /-- It holds the notices of the pushes that still wait, in the order of the pushes. -/
  queue : n.queue = waiting lifetime ops
  distinct : (n.queue.map (·.message)).Nodup
  few : n.queue.length ≤ capacity
  rising : (n.queue.map (·.expires)).Pairwise (· < ·)
  /-- At any moment it is the notices at the front that have expired, and whether there are any is
  what is answered. -/
  expires : ∀ now, ∃ gone, n.queue = gone ++ (n.expire now).queue ∧
    (n.anyExpired now = true ↔ gone ≠ [])

/-- **A queue of notices holds what was pushed last.** Take any history in which every push happens
later than those before it. A message waits with the severity and the expiry of its last push, if
no drain and no expiry has caught it since, and if fewer than eight other messages were pushed
since. -/
theorem recent_run (lifetime : Span) (ops : List Op) (hclock : (pushes ops).Pairwise (· < ·)) :
    Recent lifetime ops ((empty lifetime).run ops) := by
  rw [run_eq_waiting lifetime ops hclock]
  have hrising : ((waiting lifetime ops).map (·.expires)).Pairwise (· < ·) :=
    expires_waiting hclock
  refine ⟨rfl, nodup_waiting lifetime ops, length_waiting_le hclock, hrising, fun now => ?_⟩
  refine ⟨_, ?_, anyExpired_iff hrising now⟩
  rw [expire_eq_dropWhile hrising, List.takeWhile_append_dropWhile]

/-- A message that comes again outlives one that was pushed after it the first time. -/
theorem recent_run_again :
    let ops : List Op := [.push 0 "c" .info, .drain, .push 1 "a" .info, .push 2 "b" .info,
      .push 3 "a" .error, .expire 6]
    (pushes ops).Pairwise (· < ·) ∧ ((empty 4).run ops).queue = [⟨"a", .error, 7⟩] ∧
      ∃ gone, [⟨"a", .error, 7⟩] = gone ++ (((empty 4).run ops).expire 7).queue ∧ gone ≠ [] := by
  intro ops
  have hclock : (pushes ops).Pairwise (· < ·) := by decide
  have hrecent := recent_run 4 ops hclock
  have hqueue : ((empty 4).run ops).queue = [⟨"a", .error, 7⟩] := by
    rw [hrecent.queue]
    decide
  obtain ⟨gone, happend, hany⟩ := hrecent.expires 7
  rw [hqueue] at happend
  exact ⟨hclock, hqueue, gone, happend, hany.mp (by decide)⟩

end Tuner.Notices
