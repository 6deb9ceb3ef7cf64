import Tuner.Proofs.Console.Orders

/-!
# Orders that find no player

An order that needs the player while the link is not live is dropped. Its last intent cannot succeed
then (`NeedsLink`), and so the user is told, whatever state the dialogs are in. There is one
exception: to ask for the seeds of a station counts as a success once the dialog has moved on, and
nobody looks at whether the question was sent.
-/

namespace Tuner

/-! ## Intents that need the link -/

/-- An intent that fails if the link takes nothing. -/
def Intent.NeedsLink (i : Intent) : Prop :=
  ∀ (now : Moment) (d : Deck), (d.perform now i).verdict.settle false = false

namespace Deck

variable {now : Moment} {d : Deck}

/-- A wish for a station fails with the link, or because nothing plays. -/
theorem settle_create (request : CreationRequest) :
    (d.create now request).verdict.settle false = false := by
  have htrack : ∀ kind source,
      (d.createFromTrack now kind source).verdict.settle false = false := by
    intro kind source
    unfold createFromTrack
    split <;> rfl
  cases request with
  | fromSong => exact htrack .song .song
  | fromArtist => exact htrack .artist .artist
  | fromGenre id => rfl
  | fromSearch id => rfl

theorem settle_submit (dialog : Dialog) :
    (d.submit now dialog).verdict.settle false = false := by
  unfold submit
  dsimp only
  cases dialog with
  | createStation =>
    dsimp only
    split
    · exact settle_create _
    · rfl
  | _ =>
    dsimp only
    split <;> rfl

/-- A dialog cannot be confirmed without the link. -/
theorem needsLink_confirm (dialog : Dialog) : (Intent.confirm dialog).NeedsLink := by
  intro now d
  show (d.confirm now dialog).verdict.settle false = false
  unfold confirm
  split
  · exact settle_submit dialog
  · rfl

theorem needsLink_acceptNewStation : Intent.acceptNewStation.NeedsLink := by
  intro now d
  show d.acceptNewStation.verdict.settle false = false
  unfold acceptNewStation
  split <;> rfl

/-- Intents do not all succeed if the last of them cannot. -/
theorem course_fails {last : Intent} (hlast : last.NeedsLink) (first : List Intent) :
    (d.course now false (first ++ [last])).succeeded = false := by
  induction first generalizing d with
  | nil =>
    rw [List.nil_append, course_singleton]
    exact hlast now d
  | cons i rest ih =>
    rw [List.cons_append]
    cases h : (d.perform now i).verdict.settle false with
    -- an earlier intent may succeed without the link, and then the next one is tried
    | true =>
      rw [course_of_succeeds h]
      exact ih
    | false => rw [course_of_fails h]

end Deck

namespace Console

/-- Whether an order asks something of the player. -/
def Order.asksPlayer : Order → Bool
  | .stations | .no | .cancel | .reconnect | .status | .help | .quit => false
  | _ => true

/-- Whether an order asks for the seeds of a station. -/
def Order.asksSeeds : Order → Bool
  | .seeds _ => true
  | _ => false

variable {now : Moment} {s : Session} {o : Order} {line : String} {intents : List Intent}

/-- What asks something of the player is a list of intents. -/
theorem exists_intents (h : o.asksPlayer = true) : ∃ intents, o.intents? = some intents := by
  cases o with
  | create request => cases request <;> exact ⟨_, rfl⟩
  | stations | no | cancel | reconnect | status | help | quit => cases h
  | _ => exact ⟨_, rfl⟩

/-- The last intent of every other order needs the link. -/
theorem exists_last (hseeds : o.asksSeeds = false) (h : o.intents? = some intents) :
    ∃ first last, intents = first ++ [last] ∧ last.NeedsLink := by
  have hconfirm := Deck.needsLink_confirm
  cases o with
  | create request =>
    cases request with
    | fromSong =>
      obtain rfl := Option.some.inj h
      exact ⟨[.cancel .createStation, .chooseSource .song], _, rfl, hconfirm _⟩
    | fromArtist =>
      obtain rfl := Option.some.inj h
      exact ⟨[.cancel .createStation, .chooseSource .artist], _, rfl, hconfirm _⟩
    | fromGenre id =>
      obtain rfl := Option.some.inj h
      exact ⟨[.cancel .createStation, .chooseSource .genre, .chooseItem .createStation id], _, rfl,
        hconfirm _⟩
    | fromSearch id =>
      obtain rfl := Option.some.inj h
      exact ⟨[.cancel .createStation, .chooseSource .search, .chooseItem .createStation id], _, rfl,
        hconfirm _⟩
  | delete id =>
    obtain rfl := Option.some.inj h
    exact ⟨[.chooseStation .delete id], _, rfl, hconfirm _⟩
  | rename id name =>
    obtain rfl := Option.some.inj h
    exact ⟨[.chooseStation .rename id, .setName name], _, rfl, hconfirm _⟩
  | unseed id =>
    obtain rfl := Option.some.inj h
    exact ⟨[.chooseItem .seeds id], _, rfl, hconfirm _⟩
  | yes =>
    obtain rfl := Option.some.inj h
    exact ⟨[], _, rfl, Deck.needsLink_acceptNewStation⟩
  | seeds id => cases hseeds
  | stations | no | cancel | reconnect | status | help | quit => cases h
  | _ =>
    obtain rfl := Option.some.inj h
    exact ⟨[], _, rfl, fun _ _ => rfl⟩

/-! ## What the user is told -/

/-- A notice is the newest right after it was pushed, whatever had to go for it. -/
theorem newest_push (now : Moment) (message : String) (severity : Severity) (n : Notices) :
    (n.push now message severity).queue.getLast? = some ⟨message, severity, now + n.lifetime⟩ := by
  rw [Notices.push]
  dsimp only
  rw [List.getLast?_drop, List.getLast?_append, if_neg]
  · rfl
  · rw [List.length_append, List.length_singleton, Notices.capacity]
    omega

theorem canSend_of_not_isConnected (h : s.isConnected = false) : s.link.canSend = false := by
  rw [Link.canSend, ← Session.isConnected, h, Bool.false_and]

/-- Without a connection a session goes the course of its deck and its link stays as it is. -/
theorem actAll_of_not_isConnected (now : Moment) (h : s.isConnected = false)
    (intents : List Intent) :
    (s.actAll now intents).link = s.link ∧
      (s.actAll now intents).deck = (s.deck.course now false intents).deck ∧
      s.allSucceed now intents = (s.deck.course now false intents).succeeded := by
  have hsend := canSend_of_not_isConnected h
  obtain ⟨hdeck, hlink, hsucceed⟩ := Session.actAll_eq now s intents
  rw [hsend] at hdeck hlink hsucceed
  exact ⟨hlink.trans (Link.handOver_of_not_canSend hsend), hdeck, hsucceed⟩

theorem newest_reportDropped (h : s.isConnected = false) :
    ∃ expires, (reportDropped now false s).deck.notices.queue.getLast? =
      some ⟨"Not connected, command dropped", .error, expires⟩ := by
  have hnotify : reportDropped now false s =
      s.notify now "Not connected, command dropped" .error := by
    rw [reportDropped, h]
    rfl
  rw [hnotify]
  exact ⟨_, newest_push now _ _ s.deck.notices⟩

theorem reportDropped_of_succeeded : reportDropped now true s = s := by
  rw [reportDropped, Bool.not_true, Bool.false_and, if_neg (by decide)]

/-- **Of every dropped order but one kind the user is told.** A line that asks something of the
player while the link is not live sends no frame, whatever has happened before. The newest notice
says so, unless the line asks for the seeds of a station: then there is no notice at all. -/
theorem drop_told (now : Moment) (s : Session) (line : String) (o : Order)
    (hparse : Order.parse line = .ok o) (hasks : o.asksPlayer = true)
    (hdown : s.isConnected = false) :
    (typed now line s).link = s.link ∧
      (o.asksSeeds = false → ∃ expires, (typed now line s).deck.notices.queue.getLast? =
        some ⟨"Not connected, command dropped", .error, expires⟩) ∧
      (o.asksSeeds = true → (typed now line s).deck.notices = s.deck.notices) := by
  obtain ⟨intents, hintents⟩ := exists_intents hasks
  obtain ⟨hlink, hdeck, hsucceed⟩ := actAll_of_not_isConnected now hdown intents
  have hstep : (typed now line s) =
      reportDropped now (s.allSucceed now intents) (s.actAll now intents) := by
    rw [typed_of_parse hparse, execute_of_intents hintents]
  have hstill : (s.actAll now intents).isConnected = false := by
    rw [Session.isConnected, hlink]
    exact hdown
  rw [hstep]
  refine ⟨?_, fun hseeds => ?_, fun hseeds => ?_⟩
  · rw [Session.link, hub_reportDropped]
    exact hlink
  · obtain ⟨first, last, rfl, hlast⟩ := exists_last hseeds hintents
    rw [hsucceed, Deck.course_fails hlast]
    exact newest_reportDropped hstill
  · -- The seeds: both intents succeed, the question was dropped, and no notice follows.
    obtain ⟨id, rfl⟩ : ∃ id, o = .seeds id := by
      cases o with
      | seeds id => exact ⟨id, rfl⟩
      | _ => cases hseeds
    obtain rfl := Option.some.inj hintents
    rw [hsucceed, Deck.course_seeds, reportDropped_of_succeeded, hdeck, Deck.course_seeds]
    rfl

/-- A track is loved while nothing is connected. -/
theorem drop_told_love :
    let s := Session.new 0 "ws://player/ws" (Deck.new 6 4000000000)
    ∃ expires, (typed 1 "love" s).deck.notices.queue.getLast? =
      some ⟨"Not connected, command dropped", .error, expires⟩ := by
  intro s
  have hparse : Order.parse "love" = .ok .love := by rfl
  exact (drop_told 1 s "love" .love hparse rfl rfl).2.1 rfl

/-- The seeds of a station are asked for while nothing is connected, and no notice says that the
question was dropped. -/
theorem seeds_dropped_untold :
    let s := Session.new 0 "ws://player/ws" (Deck.new 6 4000000000)
    Order.parse "seeds 5" = .ok (.seeds "5") ∧ (Order.seeds "5").asksPlayer = true ∧
      s.isConnected = false ∧
      ¬ ∃ expires, (typed 1 "seeds 5" s).deck.notices.queue.getLast? =
        some ⟨"Not connected, command dropped", .error, expires⟩ := by
  intro s
  have hnone : (typed 1 "seeds 5" s).deck.notices.queue = [] := by rfl
  refine ⟨rfl, rfl, rfl, ?_⟩
  rw [hnone]
  rintro ⟨_, ⟨⟩⟩

end Console

end Tuner
