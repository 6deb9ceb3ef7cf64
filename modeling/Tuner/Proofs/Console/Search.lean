import Tuner.Console.Printed
import Tuner.Proofs.Console.Settled

/-!
# The course of a search

Between the question and the answer a search passes through the deck in few ways. While no results
come in, it stays as it is, is asked again, or is cleared (`SearchTurn`); results that come in are
taken over whatever was asked (`Finds`), since a report does not say which question it answers. The
three ways of `SearchTurn` compose, so they hold of an order with all of its intents as they hold of
one intent.
-/

namespace Tuner

/-! ## Turns of a search -/

namespace Deck

variable {now : Moment} {d d' : Deck} {i : Intent} {e : Event} {r : SearchResults}

/-- What can become of a search while no results come in. -/
inductive SearchTurn (d d' : Deck) : Prop where
  | stays (query : d'.searchQuery = d.searchQuery) (results : d'.searchResults = d.searchResults)
      (loading : d'.searchLoading = d.searchLoading)
  | asks (loading : d'.searchLoading = true)
  | clears (query : d'.searchQuery = none) (loading : d'.searchLoading = false)

/-- What results do that come in: they are those of the search, whatever was searched for. -/
structure Finds (r : SearchResults) (d d' : Deck) : Prop where
  query : d'.searchQuery = d.searchQuery
  results : d'.searchResults = r
  loading : d'.searchLoading = false

theorem SearchTurn.refl (d : Deck) : SearchTurn d d :=
  .stays rfl rfl rfl

/-- Two turns are one. The later one decides unless it leaves the search as it is, and so an order
with many intents is a single turn. -/
theorem SearchTurn.trans {d₁ d₂ d₃ : Deck} (h : SearchTurn d₁ d₂) (h' : SearchTurn d₂ d₃) :
    SearchTurn d₁ d₃ := by
  -- the second turn decides, and only if it stays the first one does
  cases h' with
  | stays query results loading =>
    cases h with
    | stays query' results' loading' =>
      exact .stays (query.trans query') (results.trans results') (loading.trans loading')
    | asks loading' => exact .asks (loading.trans loading')
    | clears query' loading' => exact .clears (query.trans query') (loading.trans loading')
  | asks loading => exact .asks loading
  | clears query loading => exact .clears query loading

theorem CreationOnly.searchTurn (h : d.CreationOnly d') : SearchTurn d d' := by
  rw [h]
  exact .stays rfl rfl rfl

/-- A dialog that searches takes its search with it when it is cancelled. -/
theorem searchTurn_cancel (dialog : Dialog) : SearchTurn d (d.cancel dialog) := by
  cases dialog with
  | createStation | addMusic => exact .clears rfl rfl
  | rename | delete | seeds => exact .stays rfl rfl rfl

/-- A confirmed dialog is cancelled, and clears its search on that way only. -/
theorem searchTurn_confirm (dialog : Dialog) : SearchTurn d (d.confirm now dialog).deck := by
  unfold confirm
  split
  · exact (creationOnly_submit dialog).searchTurn.trans (searchTurn_cancel dialog)
  · exact .refl d

/-- Genres are searched in the list at hand, so that search does not reach the deck. -/
theorem searchTurn_searchIn (dialog : Dialog) (text : String) :
    SearchTurn d (d.searchIn dialog text).deck := by
  unfold searchIn
  dsimp only
  split
  · split
    · exact .stays rfl rfl rfl
    · exact .asks rfl
  · exact .refl d

/-- Every intent takes one of the three turns: the intent to search asks, the dialogs that search
ask or clear, and the others stay. -/
theorem searchTurn_perform (now : Moment) (i : Intent) (d : Deck) :
    SearchTurn d (d.perform now i).deck := by
  cases i with
  | search text => exact .asks rfl
  | create request => exact (creationOnly_create request).searchTurn
  | acceptNewStation => exact creationOnly_acceptNewStation.searchTurn
  | cancel dialog => exact searchTurn_cancel dialog
  | chooseSource kind =>
    -- a source asks for genres at most
    show SearchTurn d (d.chooseSource kind).deck
    unfold chooseSource
    dsimp only
    split
    · cases kind <;> exact .stays rfl rfl rfl
    · exact .refl d
  | chooseStation dialog id =>
    show SearchTurn d (d.chooseStation dialog id).deck
    unfold chooseStation
    dsimp only
    split
    · cases dialog <;> exact .stays rfl rfl rfl
    · exact .refl d
  | searchIn dialog text => exact searchTurn_searchIn dialog text
  | chooseItem dialog id =>
    show SearchTurn d (d.chooseItem dialog id).deck
    unfold chooseItem
    dsimp only
    split <;> exact .stays rfl rfl rfl
  | setName name =>
    show SearchTurn d (d.setName name).deck
    unfold setName
    dsimp only
    split <;> exact .stays rfl rfl rfl
  | confirm dialog => exact searchTurn_confirm dialog
  | _ => exact .stays rfl rfl rfl

/-- A connection that comes or goes leaves a search that waits waiting. -/
theorem searchTurn_setConnected (isLive : Bool) : SearchTurn d (d.setConnected now isLive) := by
  unfold setConnected
  dsimp only
  split <;> exact .stays rfl rfl rfl

theorem searchTurn_apply (h : e.results? = none) : SearchTurn d (d.apply now e) := by
  cases e with
  | searchResults r => cases h
  | process s =>
    show SearchTurn d (d.onSnapshot s)
    unfold onSnapshot onSnapshotSong
    split <;> exact .stays rfl rfl rfl
  | stations list =>
    show SearchTurn d (d.onStations now list)
    unfold onStations
    dsimp only
    split <;> exact .stays rfl rfl rfl
  | stationInfo info =>
    show SearchTurn d (d.onStationInfo info)
    unfold onStationInfo
    split <;> exact .stays rfl rfl rfl
  | _ => exact .stays rfl rfl rfl

/-- An event with results ends the wait, and keeps the query of the search as it was asked last. -/
theorem finds_apply (h : e.results? = some r) : Finds r d (d.apply now e) := by
  cases e with
  | searchResults found =>
    obtain rfl := Option.some.inj h
    exact ⟨rfl, rfl, rfl⟩
  | _ => cases h

/-- To cancel dialogs one after another is one turn. Induction on the dialogs. -/
theorem searchTurn_cancelEach (dialogs : List Dialog) : SearchTurn d (d.cancelEach dialogs) := by
  induction dialogs generalizing d with
  | nil => exact .refl d
  | cons dialog rest ih => exact (searchTurn_cancel dialog).trans ih

end Deck

namespace Session

variable {s : Session} {now : Moment} {op : Op} {r : SearchResults}

/-- The results of a report that is heeded are those of the search, and nothing else brings any. -/
theorem search_receive (hs : s.Wired) (now : Moment) (e : SocketEvent) :
    match s.arrival? (.receive e) with
    | some r => Deck.Finds r s.deck (s.receive now e).deck
    | none => Deck.SearchTurn s.deck (s.receive now e).deck := by
  show match s.arrival? (.receive e) with
    | some r => Deck.Finds r s.deck (s.hub.follow now e s.deck)
    | none => Deck.SearchTurn s.deck (s.hub.follow now e s.deck)
  rw [follow_eq hs, arrival?, Link.inbound?]
  cases s.link.isCurrent e with
  | false => exact .refl _
  | true =>
    -- Of what the newest socket reports only a frame carries an event.
    simp only [if_true]
    cases e.report with
    | opened => exact Deck.searchTurn_setConnected true
    | closed => exact Deck.searchTurn_setConnected false
    | failed message => exact .refl _
    | frame text =>
      dsimp only [Report.deckOp?]
      cases Event.ofFrame? text with
      | none => exact .refl _
      | some event =>
        show match event.results? with | some r => _ | none => _
        cases hresults : event.results? with
        | some r => exact Deck.finds_apply hresults
        | none => exact Deck.searchTurn_apply hresults

/-- A step brings results or takes one of the three turns, and `arrival?` tells which. -/
theorem search_step (hs : s.Wired) (now : Moment) (op : Op) :
    match s.arrival? op with
    | some r => Deck.Finds r s.deck (s.step now op).deck
    | none => Deck.SearchTurn s.deck (s.step now op).deck := by
  cases op with
  | receive e => exact search_receive hs now e
  | act intent => exact Deck.searchTurn_perform now intent s.deck
  | connect | reconnect | send frame | listen label | vanish => exact .refl _

/-- All that an order tries is one turn, however far it gets. Induction on its intents. -/
theorem searchTurn_actAll (now : Moment) (intents : List Intent) (s : Session) :
    Deck.SearchTurn s.deck (s.actAll now intents).deck := by
  induction intents generalizing s with
  | nil => exact .refl _
  | cons i rest ih =>
    have hact : Deck.SearchTurn s.deck (s.act now i).deck := Deck.searchTurn_perform now i s.deck
    rw [actAll]
    split
    · exact hact.trans (ih _)
    · exact hact

end Session

namespace Console

variable {s : Session} {now : Moment} {o : Order}

/-- **An order brings no results.** Whatever it tries, cancels or opens, the search takes one of the
three turns. -/
theorem searchTurn_execute (now : Moment) (o : Order) (s : Session) :
    Deck.SearchTurn s.deck (execute now o s).session.deck := by
  cases execute_turn now s o with
  | tries intents _ hstep =>
    -- a command that was dropped leaves a notice behind, and no more
    have hreport : ∀ succeeded (s : Session),
        Deck.SearchTurn s.deck (reportDropped now succeeded s).deck := by
      intro succeeded s
      unfold reportDropped
      split <;> exact .stays rfl rfl rfl
    rw [hstep]
    exact (Session.searchTurn_actAll now intents s).trans (hreport _ _)
  | cancels _ hstep =>
    rw [hstep, cancelAll_eq]
    exact (Deck.searchTurn_cancelEach _).trans (.stays rfl rfl rfl)
  | dismisses _ hstep =>
    rw [hstep]
    exact .stays rfl rfl rfl
  | reconnects _ hstep =>
    rw [hstep]
    exact .stays rfl rfl rfl
  | stays _ hstep =>
    rw [hstep]
    exact .refl _

end Console

end Tuner
