import Tuner.Deck.History
import Tuner.Proofs.Deck.Frame

/-!
# Where the prompt for a new station comes from

The player never says which station a wish has led to, so the prompt for a new station is a guess
that is only worth something through its history. This module is about that history:

* **one step** — `step_turn` says all that one thing can do to the wish and to the prompt: it issues
  a wish, it resolves one, or it begins nothing;
* **the standing of a deck** — `exclusive_after`: a wish and a prompt are never there together;
* **the past of a deck** — `wish_since` and `prompt_since` lead a wish that is there, or a prompt
  that is there, back to the position where it began;
* **the whole history** — `prompts_traced` puts them together.
-/

namespace Tuner

/-- Whether a command asks the player for a new station. -/
def Command.isCreation : Command → Bool
  | .createFrom _ => true
  | .addGenre _ => true
  | _ => false

namespace Deck

variable {now : Moment} {d : Deck} {op : Op}

/-! ## What does not touch the wish -/

/-- An outcome with the wish and the prompt of the deck, and with no command for a new station. -/
structure LeavesWish (d : Deck) (o : Outcome) : Prop where
  command : ∀ c, o.command = some c → c.isCreation = false
  pending : o.deck.pendingCreation = d.pendingCreation
  prompt : o.deck.newStation = d.newStation

/-- What is refused, or done without a command, leaves the wish alone. -/
theorem leavesWish_settled (success : Bool) : d.LeavesWish (.settled success d) where
  command := by rintro c ⟨⟩
  pending := rfl
  prompt := rfl

/-- Of a gesture on a dialog only its command is in question. -/
theorem leavesWish_of_dialogsOnly {o : Outcome} (hdeck : d.DialogsOnly o.deck)
    (hcommand : ∀ c, o.command = some c → c.isCreation = false) : d.LeavesWish o where
  command := hcommand
  pending := by rw [hdeck]
  prompt := by rw [hdeck]

/-- A search asks for results and for no station. -/
theorem leavesWish_search (text : String) : d.LeavesWish (d.search text) :=
  leavesWish_of_dialogsOnly (dialogsOnly_search text) (by rintro c ⟨⟩; rfl)

theorem leavesWish_chooseSource (kind : CreationKind) : d.LeavesWish (d.chooseSource kind) := by
  refine leavesWish_of_dialogsOnly (dialogsOnly_chooseSource kind) ?_
  -- Only for a genre something is asked for, the list to pick it from.
  unfold chooseSource
  dsimp only
  split
  · cases kind <;> rintro c ⟨⟩
    rfl
  · rintro c ⟨⟩

theorem leavesWish_chooseStation (dialog : Dialog) (id : String) :
    d.LeavesWish (d.chooseStation dialog id) := by
  refine leavesWish_of_dialogsOnly (dialogsOnly_chooseStation dialog id) ?_
  -- Only the dialog for seeds asks for something, the seeds of the station.
  unfold chooseStation
  dsimp only
  split
  · cases dialog <;> rintro c ⟨⟩
    rfl
  · rintro c ⟨⟩

/-- A search inside a dialog asks for results at most. -/
theorem leavesWish_searchIn (dialog : Dialog) (text : String) :
    d.LeavesWish (d.searchIn dialog text) := by
  refine leavesWish_of_dialogsOnly (dialogsOnly_searchIn dialog text) ?_
  unfold searchIn
  dsimp only
  split
  · split
    · rintro c ⟨⟩
    · rintro c ⟨⟩
      rfl
  · rintro c ⟨⟩

theorem leavesWish_chooseItem (dialog : Dialog) (id : String) :
    d.LeavesWish (d.chooseItem dialog id) := by
  refine leavesWish_of_dialogsOnly (dialogsOnly_chooseItem dialog id) ?_
  unfold chooseItem
  dsimp only
  split <;> rintro c ⟨⟩

theorem leavesWish_setName (name : String) : d.LeavesWish (d.setName name) := by
  refine leavesWish_of_dialogsOnly (dialogsOnly_setName name) ?_
  unfold setName
  dsimp only
  split <;> rintro c ⟨⟩

/-! ## One step -/

/-- An outcome that issues a wish. The wish takes the place of a wish and of a prompt. -/
structure Issues (o : Outcome) : Prop where
  command : ∃ c, o.command = some c ∧ c.isCreation = true
  pending : o.deck.pendingCreation.isSome
  prompt : o.deck.newStation = none

/-- The wish is recorded with its command, before anybody knows what becomes of it. -/
theorem issues_issueCreation (kind : CreationKind) {c : Command} (hc : c.isCreation = true) :
    Issues (d.issueCreation kind c) :=
  ⟨⟨c, rfl, hc⟩, rfl, rfl⟩

/-- Without a track there is nothing to wish for. -/
theorem createFromTrack_cases (kind : CreationKind) {source : String → StationSource} :
    Issues (d.createFromTrack now kind source) ∨
      d.LeavesWish (d.createFromTrack now kind source) := by
  unfold createFromTrack
  split
  · exact Or.inr ⟨by rintro c ⟨⟩, rfl, rfl⟩
  · exact Or.inl (issues_issueCreation kind rfl)

/-- Every request issues a wish, or finds no track for it. -/
theorem create_cases (request : CreationRequest) :
    Issues (d.create now request) ∨ d.LeavesWish (d.create now request) := by
  cases request with
  | fromSong => exact createFromTrack_cases .song
  | fromArtist => exact createFromTrack_cases .artist
  | fromGenre id => exact Or.inl (issues_issueCreation .genre rfl)
  | fromSearch id => exact Or.inl (issues_issueCreation .search rfl)

/-- Of the five dialogs one can issue a wish. -/
theorem submit_cases (dialog : Dialog) :
    Issues (d.submit now dialog) ∨ d.LeavesWish (d.submit now dialog) := by
  have hsending : ∀ c : Command, c.isCreation = false → d.LeavesWish (.sending c d) := by
    intro c hc
    exact ⟨fun _ h => Option.some.inj h ▸ hc, rfl, rfl⟩
  unfold submit
  dsimp only
  cases dialog with
  | createStation =>
    dsimp only
    split
    · exact create_cases _
    · exact Or.inr (leavesWish_settled false)
  | _ =>
    -- The other dialogs are about stations that exist.
    dsimp only
    right
    split
    · exact hsending _ rfl
    · exact leavesWish_settled false

/-- A dialog that is confirmed issues what it submits, and one that is not at its last stage issues
nothing. -/
theorem confirm_cases (dialog : Dialog) :
    Issues (d.confirm now dialog) ∨ d.LeavesWish (d.confirm now dialog) := by
  unfold confirm
  split
  · have hsubmit : Issues (d.submit now dialog) ∨ d.LeavesWish (d.submit now dialog) :=
      submit_cases dialog
    -- The dialog returns to its start afterwards, which touches neither wish nor prompt.
    have hcancel := (d.submit now dialog).deck.dialogsOnly_cancel dialog
    have hpending : ((d.submit now dialog).deck.cancel dialog).pendingCreation =
        (d.submit now dialog).deck.pendingCreation := by rw [hcancel]
    have hprompt : ((d.submit now dialog).deck.cancel dialog).newStation =
        (d.submit now dialog).deck.newStation := by rw [hcancel]
    -- what was issued, and what was left alone
    rcases hsubmit with h | h
    · left
      exact ⟨h.command, (congrArg Option.isSome hpending).trans h.pending, hprompt.trans h.prompt⟩
    · right
      exact ⟨h.command, hpending.trans h.pending, hprompt.trans h.prompt⟩
  · exact Or.inr (leavesWish_settled false)

/-- All that one thing can do to the wish and to the prompt. -/
inductive Turn (now : Moment) (d : Deck) (op : Op) : Prop where
  /-- A command for a new station is handed to the link. -/
  | issue
      (hcommand : ∃ c, d.command? now op = some c ∧ c.isCreation = true)
      (hpending : (d.step now op).pendingCreation.isSome)
      (hprompt : (d.step now op).newStation = none)
  /-- A list of stations with a single new entry resolves the wish. -/
  | resolve (list : List Station) (s : Station)
      (hop : op = .event (.stations list))
      (hadded : added d.stations list = [s])
      (hwish : d.pendingCreation.isSome)
      (hpending : (d.step now op).pendingCreation = none)
      (hprompt : (d.step now op).newStation = some s)
  /-- Nothing begins, though a wish or a prompt may end. -/
  | quiet
      (hcommand : ∀ c, d.command? now op = some c → c.isCreation = false)
      (hpending : (d.step now op).pendingCreation = d.pendingCreation ∨
        (d.step now op).pendingCreation = none)
      (hprompt : (d.step now op).newStation = d.newStation ∨ (d.step now op).newStation = none)

/-- An intent that leaves the wish alone is quiet. -/
theorem LeavesWish.turn {i : Intent} (h : d.LeavesWish (d.perform now i)) :
    Turn now d (.intent i) :=
  .quiet h.command (Or.inl h.pending) (Or.inl h.prompt)

/-- Where an intent issues a wish or leaves it alone, its turn is known. -/
theorem turn_of_cases {i : Intent}
    (h : Issues (d.perform now i) ∨ d.LeavesWish (d.perform now i)) :
    Turn now d (.intent i) := by
  rcases h with h | h
  · exact .issue h.command h.pending h.prompt
  · exact h.turn

/-- Of the events a list of stations can resolve a wish. The others have nothing to do with it. -/
theorem turn_event (e : Event) : Turn now d (.event e) := by
  have hnone : ∀ c, d.command? now (.event e) = some c → c.isCreation = false := by
    intro c hc
    cases hc
  cases e with
  | stations list =>
    have hstep : d.step now (.event (.stations list)) = d.onStations now list := rfl
    unfold onStations at hstep
    dsimp only at hstep
    -- The one branch that changes anything is the one for a wish and a single new entry.
    split at hstep
    · rename_i kind s hwish hadded
      refine .resolve list s rfl hadded (by rw [hwish]; rfl) ?_ ?_ <;> rw [hstep]
    · refine .quiet hnone (Or.inl ?_) (Or.inl ?_) <;> rw [hstep]
  | process snapshot =>
    have hstep : d.step now (.event (.process snapshot)) = d.onSnapshot snapshot := rfl
    unfold onSnapshot onSnapshotSong at hstep
    refine .quiet hnone (Or.inl ?_) (Or.inl ?_) <;> rw [hstep] <;> split <;> rfl
  | stationInfo info =>
    have hstep : d.step now (.event (.stationInfo info)) = d.onStationInfo info := rfl
    unfold onStationInfo at hstep
    refine .quiet hnone (Or.inl ?_) (Or.inl ?_) <;> rw [hstep] <;> split <;> rfl
  | _ => exact .quiet hnone (Or.inl rfl) (Or.inl rfl)

/-- To accept the prompt does something only where there is one. -/
theorem acceptNewStation_cases (d : Deck) :
    (d.newStation = none ∧ d.acceptNewStation = .settled false d) ∨
      ∃ s, d.newStation = some s ∧
        d.acceptNewStation = .sending (.changeStation s.id) { d with newStation := none } := by
  unfold acceptNewStation
  cases d.newStation with
  | none => exact Or.inl ⟨rfl, rfl⟩
  | some s => exact Or.inr ⟨s, rfl, rfl⟩

/-- An intent issues a wish or begins nothing. The prompt and the wish can be taken back, and that
is quiet too. -/
theorem turn_intent (i : Intent) : Turn now d (.intent i) := by
  cases i with
  | create request => exact turn_of_cases (create_cases request)
  | confirm dialog => exact turn_of_cases (confirm_cases dialog)
  | search text => exact (leavesWish_search text).turn
  | chooseSource kind => exact (leavesWish_chooseSource kind).turn
  | chooseStation dialog id => exact (leavesWish_chooseStation dialog id).turn
  | searchIn dialog text => exact (leavesWish_searchIn dialog text).turn
  | chooseItem dialog id => exact (leavesWish_chooseItem dialog id).turn
  | setName name => exact (leavesWish_setName name).turn
  | cancel dialog =>
    exact (leavesWish_of_dialogsOnly (dialogsOnly_cancel dialog) (by rintro c ⟨⟩)).turn
  | cancelCreation => exact .quiet (by rintro c ⟨⟩) (Or.inr rfl) (Or.inl rfl)
  | dismissNewStation => exact .quiet (by rintro c ⟨⟩) (Or.inl rfl) (Or.inr rfl)
  | acceptNewStation =>
    rcases acceptNewStation_cases d with ⟨hprompt, heq⟩ | ⟨s, hprompt, heq⟩
    · refine LeavesWish.turn ?_
      rw [show d.perform now .acceptNewStation = d.acceptNewStation from rfl, heq]
      exact leavesWish_settled false
    · have hperform : d.perform now .acceptNewStation = d.acceptNewStation := rfl
      refine .quiet ?_ (Or.inl ?_) (Or.inr ?_) <;> simp only [command?, step, hperform, heq]
      · rintro c ⟨⟩
        rfl
      · rfl
      · rfl
  | _ =>
    -- What is left hands over a command of its own, and the deck keeps its wish and its prompt.
    refine LeavesWish.turn ⟨?_, rfl, rfl⟩
    intro c hc
    obtain rfl := Option.some.inj hc
    rfl

/-- **One of the three, whatever happens.** What the past of a deck says of its wish and its prompt
comes from this. -/
theorem step_turn (now : Moment) (d : Deck) (op : Op) : Turn now d op := by
  cases op with
  | connection isLive =>
    have hstep : d.step now (.connection isLive) = d.setConnected now isLive := rfl
    unfold setConnected at hstep
    refine .quiet (by rintro c ⟨⟩) (Or.inl ?_) (Or.inl ?_) <;> rw [hstep] <;> dsimp only <;>
      split <;> rfl
  | event e => exact turn_event e
  | intent i => exact turn_intent i

/-- To accept a prompt takes it away, and hands over the change to its station. -/
theorem accept_command {c : Command}
    (h : d.command? now (.intent .acceptNewStation) = some c) :
    ∃ s, d.newStation = some s ∧ c = .changeStation s.id ∧
      (d.step now (.intent .acceptNewStation)).newStation = none := by
  have hperform : d.perform now .acceptNewStation = d.acceptNewStation := rfl
  simp only [command?, step, hperform] at h ⊢
  rcases acceptNewStation_cases d with ⟨hprompt, heq⟩ | ⟨s, hprompt, heq⟩
  · rw [heq] at h
    cases h
  · rw [heq] at h ⊢
    exact ⟨s, hprompt, (Option.some.inj h).symm, rfl⟩

/-! ## The list that resolves a wish -/

/-- A single new entry stands among entries whose stations were all there before. -/
theorem added_eq_singleton {before list : List Station} {s : Station}
    (h : added before list = [s]) :
    ∃ front rest, list = front ++ s :: rest ∧ s.id ∉ before.map (·.id) ∧
      ∀ t ∈ front ++ rest, t.id ∈ before.map (·.id) := by
  obtain ⟨front, rest, hlist, hfront, hs, hrest⟩ := List.filter_eq_cons_iff.mp h
  refine ⟨front, rest, hlist, ?_, ?_⟩
  · simpa using hs
  · intro t ht
    rcases List.mem_append.mp ht with ht | ht
    · simpa using hfront t ht
    · simpa using List.filter_eq_nil_iff.mp hrest t ht

/-! ## The past of a deck -/

/-- At a position of a history a prompt comes up that was not there. -/
def RaisedAt (d : Deck) (history : List (Moment × Op)) (n : Nat) (s : Station) : Prop :=
  (d.after history n).newStation ≠ some s ∧ (d.after history (n + 1)).newStation = some s

/-- At a position of a history a command for a new station is handed to the link. -/
def CreationAt (d : Deck) (history : List (Moment × Op)) (n : Nat) : Prop :=
  ∃ c, d.commandAt history n = some c ∧ c.isCreation = true

/-- At a position of a history the prompt is accepted, and a command is handed to the link. -/
def AcceptedAt (d : Deck) (history : List (Moment × Op)) (n : Nat) (c : Command) : Prop :=
  (∃ now, history[n]? = some (now, .intent .acceptNewStation)) ∧ d.commandAt history n = some c

variable {history : List (Moment × Op)} {n : Nat} {s : Station}

/-- A prompt comes up only where a list of stations resolves a wish. -/
theorem RaisedAt.resolve (h : d.RaisedAt history n s) :
    ∃ now list, history[n]? = some (now, .event (.stations list)) ∧
      added (d.after history n).stations list = [s] ∧
      (d.after history n).pendingCreation.isSome ∧
      (d.after history (n + 1)).pendingCreation = none := by
  obtain ⟨hbefore, hafter⟩ := h
  cases hop : history[n]? with
  | none =>
    rw [after_succ_of_none hop] at hafter
    exact absurd hafter hbefore
  | some entry =>
    obtain ⟨now, op⟩ := entry
    rw [after_succ hop] at hafter ⊢
    -- The prompt is not the one before, and of all turns only a resolved wish leads to a new one.
    cases step_turn now (d.after history n) op with
    | issue _ _ hprompt =>
      rw [hprompt] at hafter
      cases hafter
    | resolve list t hlist hadded hwish hpending hprompt =>
      subst hlist
      obtain rfl : t = s := Option.some.inj (hprompt.symm.trans hafter)
      exact ⟨now, list, rfl, hadded, hwish, hpending⟩
    | quiet _ _ hprompt =>
      rcases hprompt with hprompt | hprompt
      · exact absurd (hprompt.symm.trans hafter) hbefore
      · rw [hprompt] at hafter
        cases hafter

/-- A wish that is there has just been issued, or it was there before. -/
theorem creationAt_or_pending (h : (d.after history (n + 1)).pendingCreation.isSome) :
    d.CreationAt history n ∨
      (d.after history (n + 1)).pendingCreation = (d.after history n).pendingCreation := by
  cases hop : history[n]? with
  | none => exact Or.inr (by rw [after_succ_of_none hop])
  | some entry =>
    obtain ⟨now, op⟩ := entry
    rw [after_succ hop] at h ⊢
    rw [CreationAt, commandAt_eq hop]
    have hsome : ¬ ((d.after history n).step now op).pendingCreation = none := by
      intro hnone
      rw [hnone] at h
      cases h
    cases step_turn now (d.after history n) op with
    | issue hcommand _ _ => exact Or.inl hcommand
    | resolve _ _ _ _ _ hpending _ => exact absurd hpending hsome
    | quiet _ hpending _ => exact Or.inr (hpending.resolve_right hsome)

/-- A wish that is there was issued after every prompt so far. -/
theorem wish_since (hstart : d.pendingCreation = none)
    (h : (d.after history n).pendingCreation.isSome) :
    ∃ k < n, d.CreationAt history k ∧ ∀ i < n, ∀ t, d.RaisedAt history i t → i < k := by
  induction n with
  | zero =>
    rw [after_zero, hstart] at h
    cases h
  | succ n ih =>
    -- A prompt that came up just now would have taken the wish away.
    have hlast : ∀ t, ¬ d.RaisedAt history n t := by
      intro t hraised
      obtain ⟨_, _, _, _, _, hnone⟩ := hraised.resolve
      rw [hnone] at h
      cases h
    have hearlier : ∀ i < n + 1, ∀ t, d.RaisedAt history i t → i < n := by
      intro i hi t hraised
      have hne : i ≠ n := by
        rintro rfl
        exact hlast t hraised
      omega
    rcases creationAt_or_pending h with hissued | hpending
    · exact ⟨n, by omega, hissued, hearlier⟩
    · obtain ⟨k, hk, hissued, hbefore⟩ := ih (hpending ▸ h)
      exact ⟨k, by omega, hissued,
        fun i hi t hraised => hbefore i (hearlier i hi t hraised) t hraised⟩

/-- A prompt that is there came up at some position. No other has come up since, and it has not
been accepted since. -/
theorem prompt_since (hstart : d.newStation = none)
    (h : (d.after history n).newStation = some s) :
    ∃ m < n, d.RaisedAt history m s ∧ ∀ i, m < i → i < n →
      (∀ t, ¬ d.RaisedAt history i t) ∧ ∀ c, ¬ d.AcceptedAt history i c := by
  induction n with
  | zero =>
    rw [after_zero, hstart] at h
    cases h
  | succ n ih =>
    -- Either the prompt came up just now, or it was there already and stood this step.
    by_cases hraised : d.RaisedAt history n s
    · exact ⟨n, by omega, hraised, fun i _ _ => by omega⟩
    · have hstood : (d.after history n).newStation = some s :=
        Decidable.byContradiction fun hother => hraised ⟨hother, h⟩
      obtain ⟨m, hm, hup, hsince⟩ := ih hstood
      refine ⟨m, by omega, hup, fun i hmi hi => ?_⟩
      rcases Nat.lt_succ_iff_lt_or_eq.mp hi with hi | rfl
      · exact hsince i hmi hi
      · constructor
        · intro t ht
          -- another prompt cannot have come up, as the one that stands is the one in question
          obtain rfl : t = s := Option.some.inj (ht.2.symm.trans h)
          exact hraised ht
        · rintro c ⟨⟨now, hop⟩, hcommand⟩
          rw [commandAt_eq hop] at hcommand
          obtain ⟨_, _, _, hnone⟩ := accept_command hcommand
          rw [after_succ hop, hnone] at h
          cases h

/-- A wish and a prompt are never there together. -/
theorem exclusive_after (hpending : d.pendingCreation = none) (n : Nat) :
    (d.after history n).pendingCreation = none ∨ (d.after history n).newStation = none := by
  induction n with
  | zero => exact Or.inl hpending
  | succ n ih =>
    cases hop : history[n]? with
    | none => rwa [after_succ_of_none hop]
    | some entry =>
      obtain ⟨now, op⟩ := entry
      rw [after_succ hop]
      cases step_turn now (d.after history n) op with
      -- a new wish takes the prompt away, and a new prompt the wish
      | issue _ _ hprompt => exact Or.inr hprompt
      | resolve _ _ _ _ _ hpending _ => exact Or.inl hpending
      | quiet _ hpending hprompt =>
        -- Either of the two is as it was or gone, so what was missing is missing still.
        rcases ih with hnone | hnone
        · exact Or.inl (hpending.elim (·.trans hnone) id)
        · exact Or.inr (hprompt.elim (·.trans hnone) id)

/-! ## The whole history -/

/-- What is to be said of the prompts of a history. -/
structure PromptsTraced (d : Deck) (history : List (Moment × Op)) : Prop where
  /-- At no position are a wish and a prompt there together. -/
  exclusive : ∀ n, (d.after history n).pendingCreation = none ∨
    (d.after history n).newStation = none
  /-- A prompt comes up, where none is, at a list of stations that arrives while a wish is pending.
  It is for the one entry whose station is not in the list before. -/
  raised : ∀ n s, d.RaisedAt history n s →
    (d.after history n).newStation = none ∧ (d.after history n).pendingCreation.isSome ∧
      ∃ now front rest, history[n]? = some (now, .event (.stations (front ++ s :: rest))) ∧
        s.id ∉ (d.after history n).stations.map (·.id) ∧
        ∀ t ∈ front ++ rest, t.id ∈ (d.after history n).stations.map (·.id)
  /-- A command for a new station lies between any two prompts, and before the first one. -/
  asked : ∀ n s, d.RaisedAt history n s →
    ∃ k < n, d.CreationAt history k ∧ ∀ i < n, ∀ t, d.RaisedAt history i t → i < k
  /-- A command that an accepted prompt leads to changes to the station of the last prompt, and no
  such command was handed over since that prompt came up. -/
  accepted : ∀ n c, d.AcceptedAt history n c →
    ∃ m < n, ∃ s, d.RaisedAt history m s ∧ c = .changeStation s.id ∧ ∀ i, m < i → i < n →
      (∀ t, ¬ d.RaisedAt history i t) ∧ ∀ c', ¬ d.AcceptedAt history i c'

/-- **Every prompt answers one wish, and leads to one change of station at most.** -/
theorem prompts_traced (maxGain : Float) (lifetime : Span) (history : List (Moment × Op)) :
    (new maxGain lifetime).PromptsTraced history where
  exclusive n := exclusive_after rfl n
  raised n s hraised := by
    obtain ⟨now, list, hop, hadded, hwish, _⟩ := hraised.resolve
    obtain ⟨front, rest, rfl, hnew, hknown⟩ := added_eq_singleton hadded
    refine ⟨?_, hwish, now, front, rest, hop, hnew, hknown⟩
    have hexclusive : ((new maxGain lifetime).after history n).pendingCreation = none ∨
        ((new maxGain lifetime).after history n).newStation = none := exclusive_after rfl n
    rcases hexclusive with hnone | hnone
    · rw [hnone] at hwish
      cases hwish
    · exact hnone
  asked n s hraised := by
    obtain ⟨_, _, _, _, hwish, _⟩ := hraised.resolve
    exact wish_since rfl hwish
  accepted n c haccepted := by
    obtain ⟨⟨now, hop⟩, hcommand⟩ := haccepted
    rw [commandAt_eq hop] at hcommand
    obtain ⟨s, hprompt, rfl, _⟩ := accept_command hcommand
    obtain ⟨m, hm, hraised, hsince⟩ := prompt_since rfl hprompt
    exact ⟨m, hm, s, hraised, rfl, hsince⟩

/-- A station is asked for, it turns up, and the prompt for it is accepted. -/
theorem prompts_traced_accepted :
    let d := new 6 4000000000
    let history : List (Moment × Op) := [(0, .intent (.create (.fromSearch "m"))),
      (1, .event (.stations [{ id := "a" }])), (2, .intent .acceptNewStation)]
    d.RaisedAt history 1 { id := "a" } ∧ d.AcceptedAt history 2 (.changeStation "a") ∧
      (∃ k < 1, d.CreationAt history k) ∧
      ∃ m < 2, ∃ s, d.RaisedAt history m s ∧ Command.changeStation "a" = .changeStation s.id := by
  intro d history
  have htraced := prompts_traced 6 4000000000 history
  have hraised : d.RaisedAt history 1 { id := "a" } := ⟨by decide, rfl⟩
  have haccepted : d.AcceptedAt history 2 (.changeStation "a") := ⟨⟨2, rfl⟩, rfl⟩
  obtain ⟨k, hk, hissued, _⟩ := htraced.asked 1 _ hraised
  obtain ⟨m, hm, s, hup, hs, _⟩ := htraced.accepted 2 _ haccepted
  exact ⟨hraised, haccepted, ⟨k, hk, hissued⟩, m, hm, s, hup, hs⟩

end Deck

end Tuner
