import Tuner.Proofs.Deck.Correlation
import Tuner.Proofs.Deck.Creation

/-!
# Wishes whose command is lost

A link that is down drops a command, and the intent that issued it answers so. A wish for a new
station is recorded before its command is sent, and the answer of the link is not recorded at all.
So a prompt does not show that the player was ever asked for a station: a station that another
client has made resolves the wish as well. `raised_though_dropped` is a history in which it does.

What a prompt does show is that a command was handed to the link. `WishFrom` ties the wish that is
pending at one position to the command at an earlier one, and `wishes_answered` says both that every
prompt is for such a wish and that every such wish gets its prompt, whatever the link has answered.
-/

namespace Tuner

/-- If a command asks for a new station, the link decides over success. -/
def Outcome.HeedsLink (o : Outcome) : Prop :=
  ∀ c, o.command = some c → c.isCreation = true → o.verdict = .byLink

namespace Deck

variable {now : Moment} {d : Deck} {history : List (Moment × Op)} {k n : Nat} {up : Nat → Bool}

/-! ## What an intent answers -/

/-- What the user is answered at a position of a history, if there is an intent. `up` says at which
positions the link takes a command. -/
def answerAt (d : Deck) (history : List (Moment × Op)) (up : Nat → Bool) (n : Nat) : Option Bool :=
  match history[n]? with
  | some (now, .intent i) => some (((d.after history n).perform now i).verdict.settle (up n))
  | _ => none

/-- What asks for no station may answer as it likes. -/
theorem LeavesWish.heedsLink {o : Outcome} (h : d.LeavesWish o) : o.HeedsLink := by
  intro c hc hcreation
  rw [h.command c hc] at hcreation
  cases hcreation

/-- A request hands its command to the link and leaves the answer to it. -/
theorem heedsLink_create (request : CreationRequest) : (d.create now request).HeedsLink := by
  have htrack : ∀ kind source, (d.createFromTrack now kind source).HeedsLink := by
    intro kind source
    unfold createFromTrack
    split
    · rintro c ⟨⟩
    · exact fun _ _ _ => rfl
  cases request with
  | fromSong => exact htrack .song .song
  | fromArtist => exact htrack .artist .artist
  | fromGenre id => exact fun _ _ _ => rfl
  | fromSearch id => exact fun _ _ _ => rfl

theorem heedsLink_submit (dialog : Dialog) : (d.submit now dialog).HeedsLink := by
  unfold submit
  dsimp only
  cases dialog with
  | createStation =>
    dsimp only
    split
    · exact heedsLink_create _
    · rintro c ⟨⟩
  | _ =>
    dsimp only
    split
    · exact fun _ _ _ => rfl
    · rintro c ⟨⟩

/-- **No intent hides from the user whether a wish for a new station went out.** -/
theorem heedsLink_perform (i : Intent) : (d.perform now i).HeedsLink := by
  cases i with
  | create request => exact heedsLink_create request
  | confirm dialog =>
    show (d.confirm now dialog).HeedsLink
    unfold confirm
    split
    · exact heedsLink_submit dialog
    · rintro c ⟨⟩
  | acceptNewStation =>
    show d.acceptNewStation.HeedsLink
    unfold acceptNewStation
    split
    · exact fun _ _ _ => rfl
    · rintro c ⟨⟩
  | chooseSource kind => exact (leavesWish_chooseSource kind).heedsLink
  | chooseStation dialog id => exact (leavesWish_chooseStation dialog id).heedsLink
  | searchIn dialog text => exact (leavesWish_searchIn dialog text).heedsLink
  | chooseItem dialog id => exact (leavesWish_chooseItem dialog id).heedsLink
  | setName name => exact (leavesWish_setName name).heedsLink
  | cancel dialog => rintro c ⟨⟩
  | cancelCreation => rintro c ⟨⟩
  | dismissNewStation => rintro c ⟨⟩
  | _ => exact fun _ _ _ => rfl

/-- Where a new station is asked for, the answer is that of the link. -/
theorem CreationAt.answerAt_eq (h : d.CreationAt history n) :
    d.answerAt history up n = some (up n) := by
  obtain ⟨c, hcommand, hcreation⟩ := h
  cases hop : history[n]? with
  | none =>
    rw [commandAt_of_none hop] at hcommand
    cases hcommand
  | some entry =>
    obtain ⟨now, op⟩ := entry
    rw [commandAt_eq hop] at hcommand
    cases op with
    -- only an intent hands over a command
    | connection isLive => cases hcommand
    | event e => cases hcommand
    | intent i =>
      have hverdict : ((d.after history n).perform now i).verdict = .byLink :=
        heedsLink_perform i c hcommand hcreation
      simp only [answerAt, hop, hverdict, Verdict.settle]

/-! ## The command behind a wish -/

/-- The wish that is pending at position `n` is the one whose command was handed over at position
`k`: no other was issued in between, and this one was pending all the time. -/
structure WishFrom (d : Deck) (history : List (Moment × Op)) (k n : Nat) : Prop where
  before : k < n
  issued : d.CreationAt history k
  latest : ∀ i, k < i → i < n → ¬ d.CreationAt history i
  pending : (d.after history n).pendingCreation.isSome
  kept : ∀ i, k < i → i ≤ n →
    (d.after history i).pendingCreation = (d.after history n).pendingCreation

/-- Each wish that is pending goes back to the command that issued it. Induction on the position:
the wish was issued just now, or it is the one from before. -/
theorem exists_wishFrom (hstart : d.pendingCreation = none)
    (h : (d.after history n).pendingCreation.isSome) : ∃ k, d.WishFrom history k n := by
  induction n with
  | zero =>
    rw [after_zero, hstart] at h
    cases h
  | succ n ih =>
    -- a wish that is issued now is the latest one, and it has not been pending at any position
    -- before
    by_cases hissued : d.CreationAt history n
    · refine ⟨n, Nat.lt_succ_self n, hissued, fun i hni hi => by omega, h, fun i hni hi => ?_⟩
      obtain rfl : i = n + 1 := by omega
      rfl
    · have hsame := (creationAt_or_pending h).resolve_left hissued
      obtain ⟨k, hk, hfirst, hlatest, hpending, hkept⟩ := ih (hsame ▸ h)
      refine ⟨k, by omega, hfirst, fun i hki hi => ?_, h, fun i hki hi => ?_⟩
      · rcases Nat.lt_succ_iff_lt_or_eq.mp hi with hi | rfl
        · exact hlatest i hki hi
        · exact hissued
      · rcases Nat.le_succ_iff.mp hi with hi | rfl
        · exact (hkept i hki hi).trans hsame.symm
        · rfl

/-- What is to be said of the prompts of a history and of the commands behind them. -/
structure WishesAnswered (d : Deck) (history : List (Moment × Op)) (up : Nat → Bool) : Prop where
  /-- A prompt comes up for a wish whose command was handed to the link. What the link answered was
  passed on to the user, and it may be either. -/
  asked : ∀ n s, d.RaisedAt history n s →
    ∃ k, d.WishFrom history k n ∧ d.answerAt history up k = some (up k) ∧
      ∃ now, Resolved now (d.after history n) (d.after history (n + 1)) s
  /-- For a wish that stands, the prompt comes up at a list of stations with a single new entry,
  whatever the link has answered. -/
  raised : ∀ k n, d.WishFrom history k n → ∀ now list s,
    history[n]? = some (now, .event (.stations list)) →
    added (d.after history n).stations list = [s] → d.RaisedAt history n s

/-- **A prompt answers a wish whose command was handed to the link, taken or not.** -/
theorem wishes_answered (maxGain : Float) (lifetime : Span) (history : List (Moment × Op))
    (up : Nat → Bool) : (new maxGain lifetime).WishesAnswered history up where
  asked n s hraised := by
    obtain ⟨now, list, hop, hadded, hwish, _⟩ := hraised.resolve
    obtain ⟨k, hfrom⟩ := exists_wishFrom rfl hwish
    refine ⟨k, hfrom, hfrom.issued.answerAt_eq, now, ?_⟩
    rw [after_succ hop]
    exact (resolved_iff_added hwish s).mpr hadded
  raised k n hfrom now list s hop hadded := by
    have hresolved : Resolved now ((new maxGain lifetime).after history n)
        (((new maxGain lifetime).after history n).onStations now list) s :=
      (resolved_iff_added hfrom.pending s).mpr hadded
    have hnone : ((new maxGain lifetime).after history n).newStation = none := by
      refine (exclusive_after rfl n).resolve_left fun hnone => ?_
      have hpending := hfrom.pending
      rw [hnone] at hpending
      cases hpending
    constructor
    · rw [hnone]
      rintro ⟨⟩
    · rw [after_succ hop]
      exact hresolved.prompt

/-- The link drops the command, and yet the next new station is taken for the one wished. -/
theorem wishes_answered_dropped :
    let d := new 6 4000000000
    let history : List (Moment × Op) := [(0, .intent (.create (.fromSearch "m"))),
      (1, .event (.stations [{ id := "a" }]))]
    d.answerAt history (fun _ => false) 0 = some false ∧ d.WishFrom history 0 1 ∧
      d.RaisedAt history 1 { id := "a" } := by
  intro d history
  have hanswered := wishes_answered 6 4000000000 history fun _ => false
  obtain ⟨k, hfrom⟩ : ∃ k, d.WishFrom history k 1 := exists_wishFrom rfl rfl
  obtain rfl : k = 0 := Nat.lt_one_iff.mp hfrom.before
  exact ⟨rfl, hfrom, hanswered.raised 0 1 hfrom 1 _ _ rfl (by decide)⟩

/-- A prompt comes up though the link has taken no command behind its wish. -/
theorem raised_though_dropped :
    let d := new 6 4000000000
    let history : List (Moment × Op) := [(0, .intent (.create (.fromSearch "m"))),
      (1, .event (.stations [{ id := "a" }]))]
    d.RaisedAt history 1 { id := "a" } ∧
      ¬ ∃ k, d.WishFrom history k 1 ∧ d.answerAt history (fun _ => false) k = some true := by
  intro d history
  refine ⟨⟨by decide, rfl⟩, ?_⟩
  rintro ⟨k, hfrom, hanswer⟩
  obtain rfl : k = 0 := Nat.lt_one_iff.mp hfrom.before
  cases hanswer

end Deck

end Tuner
