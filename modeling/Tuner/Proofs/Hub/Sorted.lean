import Mathlib.Data.List.Nodup
import Tuner.Hub.Table

/-!
# A hub sorted into a table

A hub keeps its subscriptions in one list, a table keeps one list for each purpose and looks a
number up in an order that nothing fixes. `Hub.table` sorts the list into the table. What makes the
order of the search unseen is that numbers rise (`Numbered`): a number stands in one list at most,
so the first list that has it is the only one.
-/

namespace Tuner

namespace Hub

variable {σ α : Type} {h : Hub σ} {subscriptions : List (Subscription σ)} {s s' : Subscription σ}
variable {id : Nat} {f : Handler σ → Option α}

/-! ## Numbers -/

/-- The numbers of the subscriptions rise, and all of them were issued. -/
structure Numbered (h : Hub σ) : Prop where
  rising : h.subscriptions.Pairwise (·.id < ·.id)
  issued : ∀ s ∈ h.subscriptions, s.id ≤ h.issued

theorem numbered_new (link : Link) : Numbered { link : Hub σ } where
  rising := .nil
  issued s hs := by cases hs

/-- A new subscription has a number beyond all others, and to take one off leaves the rest in order.
-/
theorem Numbered.step (hn : h.Numbered) (op : Op σ) : (h.step op).Numbered := by
  cases op with
  | subscribe handler =>
    refine ⟨List.pairwise_append.mpr ⟨hn.rising, List.pairwise_singleton _ _, ?_⟩, ?_⟩
    · intro s hs new hnew
      rw [List.mem_singleton.mp hnew]
      exact Nat.lt_succ_of_le (hn.issued s hs)
    · intro s hs
      rcases List.mem_append.mp hs with hs | hs
      · exact Nat.le_succ_of_le (hn.issued s hs)
      · rw [List.mem_singleton.mp hs]
        exact Nat.le_refl _
  | off id =>
    exact ⟨hn.rising.filter _, fun s hs => hn.issued s (List.mem_filter.mp hs).1⟩
  | dispatch e => exact hn
  | deliver text => exact hn
  | receive e => exact ⟨hn.rising, hn.issued⟩
  | link op => exact ⟨hn.rising, hn.issued⟩

theorem Numbered.run (hn : h.Numbered) (ops : List (Op σ)) : (h.run ops).Numbered := by
  induction ops generalizing h with
  | nil => exact hn
  | cons op rest ih => exact ih (hn.step op)

/-- Since numbers rise, none is there twice. -/
theorem Numbered.nodup (hn : h.Numbered) : (h.subscriptions.map (·.id)).Nodup :=
  List.pairwise_map.mpr (hn.rising.imp Nat.ne_of_lt)

/-- A number stands for one subscription. -/
theorem Numbered.eq_of_id (hn : h.Numbered) (hs : s ∈ h.subscriptions)
    (hs' : s' ∈ h.subscriptions) (hid : s.id = s'.id) : s = s' :=
  List.inj_on_of_nodup_map hn.nodup hs hs' hid

theorem has_iff : h.has id = true ↔ ∃ s ∈ h.subscriptions, s.id = id := by
  simp [has, List.any_eq_true]

theorem off_of_not_has (hhas : h.has id = false) : h.off id = h := by
  have hkept : h.subscriptions.filter (·.id ≠ id) = h.subscriptions := by
    refine List.filter_eq_self.mpr fun s hs => decide_eq_true fun hid => ?_
    rw [has_iff.mpr ⟨s, hs, hid⟩] at hhas
    cases hhas
  rw [off, hkept]

/-! ## Sorted into a table -/

/-- The handlers for one purpose, with their numbers. -/
def entries (f : Handler σ → Option α) (subscriptions : List (Subscription σ)) : List (Nat × α) :=
  subscriptions.filterMap fun s => (f s.handler).map (s.id, ·)

/-- The hub, laid out by kinds. -/
def table (h : Hub σ) : Table σ where
  link := h.link
  events kind := entries (·.onEvent? kind) h.subscriptions
  connection := entries (·.onConnection?) h.subscriptions
  issued := h.issued

/-- Sorting out the handlers for one purpose can be done in two parts. -/
theorem entries_append (f : Handler σ → Option α) (before after : List (Subscription σ)) :
    entries f (before ++ after) = entries f before ++ entries f after :=
  List.filterMap_append

theorem entries_cons (f : Handler σ → Option α) (s : Subscription σ)
    (rest : List (Subscription σ)) :
    entries f (s :: rest) = ((f s.handler).map (s.id, ·)).toList ++ entries f rest := by
  unfold entries
  rw [List.filterMap_cons]
  cases f s.handler <;> rfl

/-- Without their numbers the entries are the handlers that a delivery runs. -/
theorem map_entries (f : Handler σ → Option α) (subscriptions : List (Subscription σ)) :
    (entries f subscriptions).map (·.2) = subscriptions.filterMap (f ·.handler) := by
  unfold entries
  rw [List.map_filterMap]
  congr 1
  funext s
  cases f s.handler <;> rfl

/-- A list holds the numbers of the subscriptions that are for its purpose. -/
theorem holds_entries : Table.holds id (entries f subscriptions) = true ↔
    ∃ s ∈ subscriptions, s.id = id ∧ (f s.handler).isSome = true := by
  unfold Table.holds entries
  rw [List.any_eq_true]
  constructor
  · rintro ⟨entry, hentry, hid⟩
    obtain ⟨s, hs, hsome⟩ := List.mem_filterMap.mp hentry
    obtain ⟨a, ha, rfl⟩ := Option.map_eq_some_iff.mp hsome
    exact ⟨s, hs, eq_of_beq hid, by rw [ha]; rfl⟩
  · rintro ⟨s, hs, rfl, hsome⟩
    obtain ⟨a, ha⟩ := Option.isSome_iff_exists.mp hsome
    exact ⟨(s.id, a), List.mem_filterMap.mpr ⟨s, hs, by rw [ha]; rfl⟩, beq_self_eq_true s.id⟩

theorem without_of_not_holds {list : List (Nat × α)} (h : Table.holds id list = false) :
    Table.without id list = list :=
  List.eraseP_of_forall_not (List.any_eq_false.mp h)

/-- As numbers are distinct, a number is gone from a list with its first entry. -/
theorem without_entries (hnodup : (subscriptions.map (·.id)).Nodup) :
    Table.without id (entries f subscriptions) =
      entries f (subscriptions.filter (·.id ≠ id)) := by
  induction subscriptions with
  | nil => rfl
  | cons s rest ih =>
    obtain ⟨hnew, hnodup⟩ := List.nodup_cons.mp hnodup
    have ih := ih hnodup
    by_cases hid : s.id = id
    · -- To erase stops here and to filter goes on, but in the rest the number does not come again.
      have hrest : rest.filter (·.id ≠ id) = rest := by
        refine List.filter_eq_self.mpr fun other hother => decide_eq_true fun hother' => hnew ?_
        exact List.mem_map.mpr ⟨other, hother, hother'.trans hid.symm⟩
      rw [List.filter_cons_of_neg (by simp [hid]), hrest, entries_cons]
      cases f s.handler with
      | none => rw [hrest] at ih; exact ih
      | some a => exact List.eraseP_cons_of_pos (beq_iff_eq.mpr hid)
    · rw [List.filter_cons_of_pos (by simp [hid]), entries_cons, entries_cons, ← ih]
      cases f s.handler with
      | none => rfl
      | some a => exact List.eraseP_cons_of_neg (by simpa using hid)

theorem holds_events {kind : EventKind} : Table.holds id (h.table.events kind) = true ↔
    ∃ s ∈ h.subscriptions, s.id = id ∧ (s.handler.onEvent? kind).isSome = true :=
  holds_entries

theorem holds_connection : Table.holds id h.table.connection = true ↔
    ∃ s ∈ h.subscriptions, s.id = id ∧ s.handler.onConnection?.isSome = true :=
  holds_entries

/-- A handler is for one kind of event, the one it was subscribed to. -/
theorem isSome_onEvent? {handler : Handler σ} {kind : EventKind} :
    (handler.onEvent? kind).isSome = true ↔ ∃ run, handler = .event kind run := by
  cases handler with
  | event k run =>
    rw [Handler.onEvent?]
    split
    · -- the kind that was asked for
      next hk => exact ⟨fun _ => ⟨run, by rw [hk]⟩, fun _ => rfl⟩
    · next hk =>
      refine ⟨fun h => (Bool.false_ne_true h).elim, ?_⟩
      rintro ⟨run', heq⟩
      exact absurd (Handler.event.inj heq).1 hk
  | connection run =>
    exact ⟨fun h => (Bool.false_ne_true h).elim, fun ⟨_, h⟩ => by cases h⟩

/-- A number stands in one list only. -/
theorem Numbered.kind_eq (hn : h.Numbered) {kind kind' : EventKind}
    (hholds : Table.holds id (h.table.events kind) = true)
    (hholds' : Table.holds id (h.table.events kind') = true) : kind' = kind := by
  obtain ⟨s, hs, hid, hfor⟩ := holds_events.mp hholds
  obtain ⟨s', hs', hid', hfor'⟩ := holds_events.mp hholds'
  obtain rfl := hn.eq_of_id hs hs' (hid.trans hid'.symm)
  obtain ⟨run, hrun⟩ := isSome_onEvent?.mp hfor
  obtain ⟨run', hrun'⟩ := isSome_onEvent?.mp hfor'
  rw [hrun] at hrun'
  exact (Handler.event.inj hrun').1.symm

theorem Numbered.not_holds_connection (hn : h.Numbered) {kind : EventKind}
    (hholds : Table.holds id (h.table.events kind) = true) :
    Table.holds id h.table.connection = false := by
  refine Bool.eq_false_iff.mpr fun hholds' => ?_
  obtain ⟨s, hs, hid, hfor⟩ := holds_events.mp hholds
  obtain ⟨s', hs', hid', hfor'⟩ := holds_connection.mp hholds'
  obtain rfl := hn.eq_of_id hs hs' (hid.trans hid'.symm)
  obtain ⟨run, hrun⟩ := isSome_onEvent?.mp hfor
  rw [hrun] at hfor'
  cases hfor'

/-- A number is in the hub if it is in one of the lists, as each subscription is sorted into one. -/
theorem has_iff_holds : h.has id = true ↔
    (∃ kind, Table.holds id (h.table.events kind) = true) ∨
      Table.holds id h.table.connection = true := by
  rw [has_iff]
  constructor
  · rintro ⟨s, hs, hid⟩
    cases hhandler : s.handler with
    | event kind run =>
      exact .inl ⟨kind, holds_events.mpr ⟨s, hs, hid, isSome_onEvent?.mpr ⟨run, hhandler⟩⟩⟩
    | connection run => exact .inr (holds_connection.mpr ⟨s, hs, hid, by rw [hhandler]; rfl⟩)
  · rintro (⟨kind, hholds⟩ | hholds)
    · obtain ⟨s, hs, hid, -⟩ := holds_events.mp hholds
      exact ⟨s, hs, hid⟩
    · obtain ⟨s, hs, hid, -⟩ := holds_connection.mp hholds
      exact ⟨s, hs, hid⟩

/-! ## One operation on both -/

/-- To take a number off is to take it out of each of the lists. -/
theorem table_off (hn : h.Numbered) (id : Nat) :
    (h.off id).table =
      { h.table with
        events := fun kind => Table.without id (h.table.events kind)
        connection := Table.without id h.table.connection } := by
  unfold table off
  simp only [without_entries hn.nodup]

/-- Where a list of events holds the number, to erase it there is to erase it everywhere. -/
theorem Numbered.setEvents_without (hn : h.Numbered) {kind : EventKind}
    (hholds : Table.holds id (h.table.events kind) = true) :
    h.table.setEvents kind (Table.without id (h.table.events kind)) = (h.off id).table := by
  have hevents : (fun k => if k = kind then Table.without id (h.table.events kind)
      else h.table.events k) = fun k => Table.without id (h.table.events k) := by
    funext k
    split
    · next hk => rw [hk]
    · next hk =>
      -- The list of another kind does not have the number.
      have hnot : Table.holds id (h.table.events k) = false :=
        Bool.eq_false_iff.mpr fun hk' => hk (hn.kind_eq hholds hk')
      exact (without_of_not_holds hnot).symm
  rw [Table.setEvents, hevents, table_off hn,
    without_of_not_holds (hn.not_holds_connection hholds)]

/-- **In whatever order the kinds come**, the list that is found is the right one. -/
theorem Numbered.offEvents?_table (hn : h.Numbered) (kinds : List EventKind) :
    h.table.offEvents? id kinds =
      if ∃ kind ∈ kinds, Table.holds id (h.table.events kind) = true then some (h.off id).table
      else none := by
  induction kinds with
  | nil => rw [if_neg (by simp), Table.offEvents?]
  | cons kind rest ih =>
    rw [Table.offEvents?]
    split
    · next hholds => rw [if_pos ⟨kind, List.mem_cons_self, hholds⟩, hn.setEvents_without hholds]
    · next hholds => simp only [ih, List.exists_mem_cons_iff, hholds, false_or, Bool.false_eq_true]

/-- **The table finds a number if the hub has it**, and takes off the same subscription. The list
for the connection is looked at last, and then no other has the number. -/
theorem Numbered.off?_table (hn : h.Numbered) (order : Table.Order) (id : Nat) :
    h.table.off? order id = if h.has id = true then some (h.off id).table else none := by
  unfold Table.off?
  rw [hn.offEvents?_table]
  by_cases hevents : ∃ kind ∈ order.kinds, Table.holds id (h.table.events kind) = true
  · obtain ⟨kind, -, hholds⟩ := hevents
    rw [if_pos ⟨kind, order.complete kind, hholds⟩,
      if_pos (has_iff_holds.mpr (.inl ⟨kind, hholds⟩))]
  · have hnone : ∀ kind, Table.holds id (h.table.events kind) = false := fun kind =>
      Bool.eq_false_iff.mpr fun hholds => hevents ⟨kind, order.complete kind, hholds⟩
    -- What is left to decide is whether the list for the connection has the number.
    rw [if_neg hevents]
    dsimp only
    refine if_congr ?_ ?_ rfl
    · rw [has_iff_holds]
      simp [hnone]
    · rw [table_off hn]
      simp only [without_of_not_holds (hnone _)]

/-- To subscribe and then to sort is to sort and then to subscribe: the new entry is the last one in
its list. -/
theorem table_subscribe (handler : Handler σ) (h : Hub σ) :
    (h.subscribe handler).table = h.table.subscribe handler := by
  unfold table subscribe Table.subscribe
  simp only [entries_append]
  cases handler with
  | event kind run =>
    dsimp only [Table.setEvents, Table.nextId]
    congr 1
    · funext k
      -- the list of the new handler's kind, and the others
      by_cases hk : kind = k
      · subst hk
        rw [if_pos rfl, entries_cons, Handler.onEvent?, if_pos rfl]
        rfl
      · rw [if_neg (Ne.symm hk), entries_cons, Handler.onEvent?, if_neg hk]
        exact List.append_nil _
    · exact List.append_nil _
  | connection run =>
    dsimp only [Table.nextId]
    congr 1
    funext k
    exact List.append_nil _

/-- Every operation does to the table what it does to the hub. -/
theorem Numbered.step_table (hn : h.Numbered) (order : Table.Order) (op : Op σ) :
    h.table.step order op = (h.step op).table := by
  cases op with
  | subscribe handler => exact (table_subscribe handler h).symm
  | off id =>
    rw [Table.step, Hub.step, hn.off?_table]
    cases hhas : h.has id with
    | true => rfl
    | false => rw [off_of_not_has hhas]; rfl
  | dispatch e => rfl
  | deliver text => rfl
  | receive e => rfl
  | link op => rfl

/-- The list of a kind is as long as the handlers for it are many. -/
theorem handlerCount_table (kind : EventKind) (h : Hub σ) :
    h.table.handlerCount kind = h.handlerCount kind := by
  unfold Table.handlerCount handlerCount eventHandlers
  rw [← map_entries, List.length_map]
  rfl

/-- An event runs the same handlers in the same order, since sorting keeps the order. -/
theorem dispatch_table (now : Moment) (e : Event) (h : Hub σ) (follower : σ) :
    h.table.dispatch now e follower = h.dispatch now e follower := by
  unfold Table.dispatch dispatch eventHandlers
  rw [← map_entries, List.foldl_map]
  rfl

theorem announce_table (now : Moment) (isLive : Bool) (h : Hub σ) (follower : σ) :
    h.table.announce now isLive follower = h.announce now isLive follower := by
  unfold Table.announce announce connectionHandlers
  rw [← map_entries, List.foldl_map]
  rfl

theorem deliver_table (now : Moment) (text : String) (h : Hub σ) (follower : σ) :
    h.table.deliver now text follower = h.deliver now text follower := by
  unfold Table.deliver deliver
  cases Event.ofFrame? text with
  | none => rfl
  | some e => exact dispatch_table now e h follower

theorem deliveryCount_table (text : String) (h : Hub σ) :
    h.table.deliveryCount text = h.deliveryCount text := by
  unfold Table.deliveryCount deliveryCount
  cases Event.ofFrame? text with
  | none => rfl
  | some e => exact handlerCount_table e.kind h

theorem follow_table (now : Moment) (e : SocketEvent) (h : Hub σ) (follower : σ) :
    h.table.follow now e follower = h.follow now e follower := by
  unfold Table.follow follow
  rw [show h.table.link = h.link from rfl]
  cases h.link.inbound? e with
  | none => rfl
  | some i =>
    cases i with
    | connection isLive => exact announce_table now isLive h follower
    | frame text => exact deliver_table now text h follower

/-- The answers are the same, and so is the follower. -/
theorem Numbered.effect_table (hn : h.Numbered) (order : Table.Order) (now : Moment) (follower : σ)
    (op : Op σ) : h.table.effect order now follower op = h.effect now follower op := by
  cases op with
  | subscribe handler => cases handler <;> rfl
  | off id =>
    rw [Table.effect, effect, hn.off?_table]
    cases h.has id <;> rfl
  | dispatch e => rw [Table.effect, effect, handlerCount_table, dispatch_table]
  | deliver text => rw [Table.effect, effect, deliver_table, deliveryCount_table]
  | receive e => rw [Table.effect, effect, follow_table]
  | link op => rfl

/-! ## Runs of both -/

/-- A history leads the table to the table of where it leads the hub. Induction on the history. -/
theorem Numbered.run_table (hn : h.Numbered) (history : List (Table.Order × Op σ)) :
    h.table.run history = (h.run (history.map (·.2))).table := by
  induction history generalizing h with
  | nil => rfl
  | cons entry rest ih =>
    obtain ⟨order, op⟩ := entry
    show (h.table.step order op).run rest = ((h.step op).run (rest.map (·.2))).table
    rw [hn.step_table, ih (hn.step op)]

/-- **Table and hub answer alike all along**, whatever the orders of the kinds. -/
theorem Numbered.effects_table (hn : h.Numbered) (follower : σ)
    (history : List (Table.Order × Moment × Op σ)) :
    h.table.effects follower history = h.effects follower (history.map (·.2)) := by
  induction history generalizing h follower with
  | nil => rfl
  | cons entry rest ih =>
    obtain ⟨order, now, op⟩ := entry
    rw [Table.effects, hn.effect_table, hn.step_table, ih (hn.step op)]
    rfl

end Hub

end Tuner
