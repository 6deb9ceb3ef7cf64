import Tuner.Proofs.Hub.Sorted

/-!
# One ordered list of subscriptions

What a hub does is told by a list, and the list is told by the history: the subscriptions in the
order in which they were made, but for those that were taken off later. `standing` goes through the
history once and asks of each subscription what comes after it.
-/

namespace Tuner.Hub

variable {σ : Type} {h : Hub σ} {live : List (Subscription σ)}

/-! ## The list by the history -/

def Op.handler? : Op σ → Option (Handler σ)
  | .subscribe handler => some handler
  | _ => none

/-- Whether an operation takes a number off. -/
def Op.isOff (id : Nat) : Op σ → Bool
  | .off other => other == id
  | _ => false

/-- What an operation does to the link. -/
def Op.onLink? : Op σ → Option Link.Op
  | .receive e => some (.receive e)
  | .link op => some op
  | _ => none

def Answer.number? : Answer → Option Nat
  | .number id => some id
  | _ => none

/-- The handlers that a history subscribes. -/
def handlers (ops : List (Op σ)) : List (Handler σ) :=
  ops.filterMap Op.handler?

/-- The subscriptions that a history makes and does not take off later. -/
def standing (issued : Nat) : List (Op σ) → List (Subscription σ)
  | [] => []
  | op :: rest =>
    match op.handler? with
    | some handler =>
      if rest.any (·.isOff (issued + 1)) then standing (issued + 1) rest
      else ⟨issued + 1, handler⟩ :: standing (issued + 1) rest
    | none => standing issued rest

theorem run_cons (h : Hub σ) (op : Op σ) (rest : List (Op σ)) :
    h.run (op :: rest) = (h.step op).run rest :=
  rfl

/-- What was there before a history stays unless the history takes it off, and stands in front of
what the history adds. -/
theorem subscriptions_run (h : Hub σ) (ops : List (Op σ)) :
    (h.run ops).subscriptions =
      h.subscriptions.filter (fun s => !ops.any (·.isOff s.id)) ++ standing h.issued ops := by
  induction ops generalizing h with
  | nil => simp [run, standing]
  | cons op rest ih =>
    rw [run_cons, ih]
    cases op with
    | subscribe handler =>
      -- The rest of the history meets the new subscription at the end of those before it.
      have hsubs : (h.step (.subscribe handler)).subscriptions =
          h.subscriptions ++ [⟨h.issued + 1, handler⟩] := rfl
      have hissued : (h.step (.subscribe handler)).issued = h.issued + 1 := rfl
      rw [hsubs, hissued, List.filter_append, List.append_assoc, standing]
      congr 1
      show _ = if rest.any (·.isOff (h.issued + 1)) then _ else _
      cases hoff : rest.any (·.isOff (h.issued + 1)) with
      | true => rw [List.filter_cons_of_neg (by simp [hoff]), if_pos rfl]; rfl
      | false => rw [List.filter_cons_of_pos (by simp [hoff]), if_neg Bool.false_ne_true]; rfl
    | off id =>
      -- What goes now and what goes later makes one filter.
      have hkeep : ∀ s : Subscription σ, (!rest.any (·.isOff s.id) && decide (s.id ≠ id)) =
          !(Op.off id :: rest).any (·.isOff s.id) := by
        intro s
        rw [List.any_cons, Bool.not_or, Bool.and_comm]
        congr 1
        show _ = !(id == s.id)
        by_cases hid : s.id = id
        · simp [hid]
        · simp [hid, Ne.symm hid]
      show (h.subscriptions.filter (·.id ≠ id)).filter _ ++ _ = _
      simp only [List.filter_filter, hkeep]
      rfl
    | dispatch e => rfl
    | deliver text => rfl
    | receive e => rfl
    | link op => rfl

/-- What is subscribed makes no difference to the link. -/
theorem link_run (h : Hub σ) (ops : List (Op σ)) :
    (h.run ops).link = h.link.run (ops.filterMap Op.onLink?) := by
  induction ops generalizing h with
  | nil => rfl
  | cons op rest ih =>
    rw [run_cons, ih]
    cases op <;> rfl

/-- Numbers are given out one after the other, whatever else happens. -/
theorem numbers_effects (h : Hub σ) (follower : σ) (history : List (Moment × Op σ)) :
    (h.effects follower history).filterMap (·.answer.number?) =
      List.range' (h.issued + 1) (handlers (history.map (·.2))).length := by
  induction history generalizing h follower with
  | nil => rfl
  | cons entry rest ih =>
    obtain ⟨now, op⟩ := entry
    rw [effects]
    cases op with
    | subscribe handler =>
      show h.nextId :: _ = _
      rw [ih]
      exact (List.range'_succ).symm
    | off id => exact ih _ _
    | dispatch e => exact ih _ _
    | deliver text => exact ih _ _
    | receive e => exact ih _ _
    | link op => exact ih _ _

/-! ## What the list tells -/

/-- A hub that does what a list of subscriptions says. -/
structure Obeys (h : Hub σ) (live : List (Subscription σ)) : Prop where
  /-- The list is in the order in which the subscriptions were made. -/
  rising : live.Pairwise (·.id < ·.id)
  /-- The next number has not been in the list. -/
  fresh : ∀ s ∈ live, s.id < h.nextId
  known : ∀ now id follower,
    h.effect now follower (.off id) = ⟨.removed (decide (∃ s ∈ live, s.id = id)), follower⟩
  /-- Taking a number off leaves the others, in their order. -/
  off : ∀ before s after, live = before ++ s :: after →
    h.step (.off s.id) = { h with subscriptions := before ++ after }
  off_unknown : ∀ id, (∀ s ∈ live, s.id ≠ id) → h.step (.off id) = h
  /-- An event runs the handlers for its kind, each once and in order. -/
  dispatch : ∀ now e follower,
    let runs := live.filterMap (·.handler.onEvent? e.kind)
    h.effect now follower (.dispatch e) =
        ⟨.ran runs.length, runs.foldl (fun s run => run now e s) follower⟩ ∧
      h.handlerCount e.kind = runs.length
  /-- A frame that carries an event does what the event does, and any other nothing. -/
  deliver : ∀ now text follower, h.effect now follower (.deliver text) =
    match Event.ofFrame? text with
    | some e => h.effect now follower (.dispatch e)
    | none => ⟨.ran 0, follower⟩
  /-- A change of the connection runs the handlers for the connection, each once and in order. -/
  receive : ∀ now e follower, (h.effect now follower (.receive e)).follower =
    match h.link.inbound? e with
    | some (.connection isLive) =>
      (live.filterMap (·.handler.onConnection?)).foldl (fun s run => run now isLive s) follower
    | some (.frame text) => (h.effect now follower (.deliver text)).follower
    | none => follower
  /-- Who subscribes to the connection hears at once, and once, whether it is live. -/
  subscribe : ∀ now handler follower, h.effect now follower (.subscribe handler) =
    ⟨.number h.nextId,
      match handler with
      | .connection run => run now h.link.isLive follower
      | .event _ _ => follower⟩

/-- **A hub with rising numbers does what its own list says.** To take a number off is where the
numbers matter: it must not be the number of another one. -/
theorem Numbered.obeys (hn : h.Numbered) : h.Obeys h.subscriptions where
  rising := hn.rising
  fresh s hs := Nat.lt_succ_of_le (hn.issued s hs)
  known now id follower := by
    have hhas : h.has id = decide (∃ s ∈ h.subscriptions, s.id = id) :=
      Bool.eq_iff_iff.mpr (has_iff.trans decide_eq_true_iff.symm)
    rw [effect, hhas]
  off before s after hlist := by
    have hnodup := hn.nodup
    rw [hlist, List.map_append, List.map_cons, List.nodup_middle, List.nodup_cons,
      ← List.map_append] at hnodup
    have hkept : (before ++ after).filter (·.id ≠ s.id) = before ++ after :=
      List.filter_eq_self.mpr fun other hother => decide_eq_true fun hid =>
        hnodup.1 (List.mem_map.mpr ⟨other, hother, hid⟩)
    have hgone : h.subscriptions.filter (·.id ≠ s.id) = before ++ after := by
      rw [hlist, List.filter_append, List.filter_cons_of_neg (by simp), ← List.filter_append, hkept]
    show h.off s.id = _
    rw [Hub.off, hgone]
  off_unknown id hid := by
    refine off_of_not_has (Bool.eq_false_iff.mpr fun hhas => ?_)
    obtain ⟨s, hs, hsid⟩ := has_iff.mp hhas
    exact hid s hs hsid
  dispatch now e follower := ⟨rfl, rfl⟩
  deliver now text follower := by
    rw [effect, deliveryCount, Hub.deliver]
    cases Event.ofFrame? text <;> rfl
  receive now e follower := by
    show h.follow now e follower = _
    unfold follow
    cases h.link.inbound? e with
    | none => rfl
    | some i => cases i <;> rfl
  subscribe now handler follower := by cases handler <;> rfl

/-- **The hub is one ordered list of subscriptions**, also where it is laid out by kinds. In any
history on a link, and in whatever order the kinds come each time a number is looked up, the table
answers as the hub does, and its handlers make the same of the follower. The hub does what a list
says: the subscriptions of the history that were not taken off later, in the order in which they
were made. Their numbers are 1, 2, 3 and so on, so none is used again. The link is where the history
has brought it, whoever has subscribed. -/
theorem one_ordered_list (link : Link) (follower : σ)
    (history : List (Table.Order × Moment × Op σ)) :
    let start : Hub σ := { link }
    let ops := history.map (·.2.2)
    let table := ({ link } : Table σ).run (history.map fun entry => (entry.1, entry.2.2))
    let effects := ({ link } : Table σ).effects follower history
    effects = start.effects follower (history.map (·.2)) ∧
      table = (start.run ops).table ∧
      (∀ kind, table.handlerCount kind = (start.run ops).handlerCount kind) ∧
      (effects.filterMap (·.answer.number?) = List.range' 1 (handlers ops).length) ∧
      (start.run ops).link = link.run (ops.filterMap Op.onLink?) ∧
      (start.run ops).Obeys (standing 0 ops) := by
  intro start ops table effects
  have hn : start.Numbered := numbered_new link
  have heffects : effects = start.effects follower (history.map (·.2)) :=
    hn.effects_table follower history
  have htable : table = (start.run ops).table := by
    refine (hn.run_table _).trans ?_
    rw [List.map_map]
    rfl
  have hsubs : (start.run ops).subscriptions = standing 0 ops :=
    (subscriptions_run start ops).trans (List.nil_append _)
  refine ⟨heffects, htable, fun kind => ?_, ?_, link_run start ops, ?_⟩
  · rw [htable, handlerCount_table]
  · rw [heffects, numbers_effects, List.map_map]
    rfl
  · rw [← hsubs]
    exact (hn.run ops).obeys

end Tuner.Hub
