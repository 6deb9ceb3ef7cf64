import Mathlib.Data.List.Induction
import Tuner.Proofs.Console.Printed
import Tuner.Proofs.Console.Search

/-!
# Which search results are on the screen

The view remembers the text whose results it has listed, and not the results. So it lists what comes
in first for a text other than the one before, and stays silent on anything that comes in for the
same text later: the answer to the same search made again, or the answers of two searches that
overlap, of which the first one is listed for the second.

`LastListing` follows a history with the last listing in it and with what came in since. `Told` is
the invariant that ties it to the view and to the deck; `Told.turn` is the one step, by whether
results are awaited and whether the text is the one of the last listing.
-/

namespace Tuner.Console

/-! ## What is printed of a search -/

theorem searchTurn_settle (d : Deck) : Deck.SearchTurn d (View.settle d) :=
  .stays rfl rfl rfl

/-- What is listed of a search, if the text that was listed last is `key`. -/
def listing (d : Deck) (key : Option String) : List SearchResults :=
  if d.searchLoading = false ∧ d.searchQuery ≠ key ∧ d.searchQuery.isSome = true then
    [d.searchResults]
  else []

theorem results?_of_kind (item : Item) (h : item.kind ≠ .results) : item.results? = none := by
  cases item with
  | results => exact absurd rfl h
  | _ => rfl

/-- The view lists the results under three conditions, and `listing` asks for the same. -/
theorem results?_block (now : Moment) (force : Bool) (d : Deck) (v : View) :
    (v.block now force d .results).filterMap Item.results? = listing d v.search := by
  show (v.resultItems d).filterMap Item.results? = _
  unfold View.resultItems listing
  cases d.searchLoading <;> by_cases hkey : d.searchQuery = v.search <;>
    cases hsome : d.searchQuery.isSome <;> simp [hkey, Item.results?]

namespace Screen

variable {s : Screen} {now : Moment} {op : Op} {history : List (Moment × Op)}

/-! ## One turn of the screen -/

/-- The view has caught up with the session. -/
structure InStep (s : Screen) : Prop where
  wired : s.session.Wired
  key : s.session.deck.searchLoading = false → s.view.search = s.session.deck.searchQuery

/-- What one turn does to the search and to the listing of its results. -/
structure Turned (now : Moment) (s : Screen) (op : Op) : Prop where
  inStep : InStep (s.turn now op)
  key : (s.turn now op).view.search =
    if (s.turn now op).session.deck.searchLoading then s.view.search
    else (s.turn now op).session.deck.searchQuery
  printed : (s.turnItems now op).filterMap Item.results? =
    listing (s.turn now op).session.deck s.view.search
  search : match s.arrival? op with
    | some r => Deck.Finds r s.session.deck (s.turn now op).session.deck
    | none => Deck.SearchTurn s.session.deck (s.turn now op).session.deck

/-- A view catches up: it takes the text over unless results are still awaited. -/
theorem inStep_refresh (h : s.session.Wired) : InStep (s.refresh now) where
  wired := wired_of_hub h rfl
  key hloading := by
    -- results that are awaited would keep the old key
    show (if s.session.deck.searchLoading then _ else _) = _
    rw [show s.session.deck.searchLoading = false from hloading]
    rfl

/-- A view that has caught up has nothing to list. -/
theorem listing_of_inStep (h : InStep s) : listing s.session.deck s.view.search = [] :=
  if_neg fun ⟨hloading, hkey, _⟩ => hkey (h.key hloading).symm

theorem wired_reached (h : s.session.Wired) (now : Moment) (op : Op) :
    (s.reached now op).Wired := by
  cases op with
  | session op => exact Session.wired_step now op h
  | line text =>
    show (typed now text s.session).Wired
    unfold typed
    split
    · exact wired_execute h _
    · exact h

/-- A line brings no results, and anything else brings those of a report at most. -/
theorem search_reached (h : s.session.Wired) (now : Moment) (op : Op) :
    match s.arrival? op with
    | some r => Deck.Finds r s.session.deck (s.reached now op).deck
    | none => Deck.SearchTurn s.session.deck (s.reached now op).deck := by
  cases op with
  | session op => exact Session.search_step h now op
  | line text =>
    show Deck.SearchTurn _ (typed now text s.session).deck
    unfold typed
    split
    · exact searchTurn_execute now _ s.session
    · exact .refl _

/-- Every turn does all four things. A turn without a view changes nothing, and the view that it did
not show would have shown nothing. -/
theorem turned (h : InStep s) (now : Moment) (op : Op) : Turned now s op := by
  have hsearch := search_reached h.wired now op
  cases turn_cases now s op with
  | unseen hreached hturn hitems =>
    rw [hreached] at hsearch
    refine ⟨by rwa [hturn], ?_, ?_, by rwa [hturn]⟩
    · -- There was no view, but one would have kept the key.
      rw [hturn]
      cases hloading : s.session.deck.searchLoading with
      | true => rfl
      | false => exact h.key hloading
    · rw [hturn, hitems, listing_of_inStep h]
      rfl
  | seen printed force hown hturn hitems =>
    refine ⟨?_, ?_, ?_, ?_⟩
    · rw [hturn]
      exact inStep_refresh (wired_reached h.wired now op)
    · rw [hturn]
      rfl
    · rw [hturn, hitems, filterMap_seen results?_of_kind (by decide) hown, results?_block]
      rfl
    · rw [hturn]
      cases harrival : s.arrival? op with
      | some r =>
        rw [harrival] at hsearch
        exact ⟨hsearch.query, hsearch.results, hsearch.loading⟩
      | none =>
        rw [harrival] at hsearch
        exact hsearch.trans (searchTurn_settle _)

/-- What the deck holds once no results are awaited: what came in last, if the text is still the
same. -/
theorem Turned.results {shown : SearchResults} {since : List SearchResults} {text : String}
    (h : Turned now s op) (hloading : (s.turn now op).session.deck.searchLoading = false)
    (hquery : (s.turn now op).session.deck.searchQuery = some text)
    (hbefore : s.session.deck.searchLoading = false →
      s.session.deck.searchResults = since.getLast?.getD shown) :
    (s.turn now op).session.deck.searchResults =
      (since ++ (s.arrival? op).toList).getLast?.getD shown := by
  have hsearch := h.search
  cases harrival : s.arrival? op with
  | some r =>
    rw [harrival] at hsearch
    rw [hsearch.results, Option.toList_some, List.getLast?_concat]
    rfl
  | none =>
    rw [harrival] at hsearch
    rw [Option.toList_none, List.append_nil]
    cases hsearch with
    | stays query results loading =>
      rw [results]
      exact hbefore (loading.symm.trans hloading)
    -- A search that was asked is awaited still, and one that was cleared has no text.
    | asks loading =>
      rw [hloading] at loading
      cases loading
    | clears query loading =>
      rw [hquery] at query
      cases query

/-! ## Runs -/

/-- One turn more lists what that turn prints. -/
theorem listings_concat (s : Screen) (history : List (Moment × Op)) (now : Moment) (op : Op) :
    s.listings (history ++ [(now, op)]) =
      s.listings history ++ ((s.run history).turnItems now op).filterMap Item.results? := by
  rw [listings, printed_concat, List.filterMap_append]
  rfl

/-- The listings of a history, told by the deck after each turn. -/
def listed (s : Screen) : List (Moment × Op) → List SearchResults
  | [] => []
  | (now, op) :: rest =>
    listing (s.turn now op).session.deck s.view.search ++ (s.turn now op).listed rest

/-- The printed listings can be told from the decks. Induction on the history, where each turn
leaves the view caught up. -/
theorem listings_eq_listed (h : InStep s) (history : List (Moment × Op)) :
    s.listings history = s.listed history := by
  induction history generalizing s with
  | nil => rfl
  | cons entry rest ih =>
    obtain ⟨now, op⟩ := entry
    have hturned : Turned now s op := turned h now op
    rw [listed, ← ih hturned.inStep, ← hturned.printed, listings, listings, printed,
      List.filterMap_append]

/-- The last listing of a history shows some results, which were found for a text, and then some
other results came in. -/
inductive LastListing (s : Screen) (text : String) (shown : SearchResults) :
    List (Moment × Op) → List SearchResults → Prop where
  | printed (history : List (Moment × Op)) (now : Moment) (op : Op)
      (hprinted : ((s.run history).turnItems now op).filterMap Item.results? = [shown])
      (hquery : ((s.run history).turn now op).session.deck.searchQuery = some text) :
      LastListing s text shown (history ++ [(now, op)]) []
  | quiet {history : List (Moment × Op)} {since : List SearchResults}
      (h : LastListing s text shown history since) (now : Moment) (op : Op)
      (hquiet : ((s.run history).turnItems now op).filterMap Item.results? = []) :
      LastListing s text shown (history ++ [(now, op)])
        (since ++ ((s.run history).arrival? op).toList)

/-- What is called the last listing is the last that was printed. -/
theorem LastListing.getLast?_listings {text : String} {shown : SearchResults}
    {since : List SearchResults} (h : LastListing s text shown history since) :
    (s.listings history).getLast? = some shown := by
  induction h with
  | printed history now op hprinted hquery => rw [listings_concat, hprinted, List.getLast?_concat]
  | quiet _ now op hquiet ih => rw [listings_concat, hquiet, List.append_nil, ih]

/-- What the screen shows of a search after a history. -/
structure Told (s : Screen) (history : List (Moment × Op)) : Prop where
  inStep : InStep (s.run history)
  listed : ∀ text, (s.run history).view.search = some text →
    ∃ shown since, LastListing s text shown history since ∧
      ((s.run history).session.deck.searchLoading = false →
        (s.run history).session.deck.searchResults = since.getLast?.getD shown)

/-- One turn more: nothing is listed while results are awaited or while the text stays, and
otherwise the listing begins anew. -/
theorem Told.turn (h : Told s history) (now : Moment) (op : Op) :
    Told s (history ++ [(now, op)]) := by
  have hturned : Turned now (s.run history) op := turned h.inStep now op
  have hinStep : InStep (s.run (history ++ [(now, op)])) := by
    rw [run_concat]
    exact hturned.inStep
  refine ⟨hinStep, fun text hkey => ?_⟩
  rw [run_concat] at hkey ⊢
  rw [hturned.key] at hkey
  have hprinted := hturned.printed
  cases hloading : ((s.run history).turn now op).session.deck.searchLoading with
  | true =>
    -- Nothing is listed while results are awaited.
    rw [hloading, if_pos rfl] at hkey
    rw [listing, hloading, if_neg (by simp)] at hprinted
    obtain ⟨shown, since, hlast, -⟩ := h.listed text hkey
    exact ⟨shown, _, hlast.quiet now op hprinted, fun h => by cases h⟩
  | false =>
    rw [hloading, if_neg (by simp)] at hkey
    by_cases hsame : (s.run history).view.search = some text
    · -- The text is the one that was listed last, so nothing is listed, whatever was found.
      rw [listing, hkey, hsame, if_neg (by simp)] at hprinted
      obtain ⟨shown, since, hlast, hresults⟩ := h.listed text hsame
      exact ⟨shown, _, hlast.quiet now op hprinted,
        fun _ => hturned.results hloading hkey hresults⟩
    · -- Results of another text are there, and are listed.
      rw [listing, hloading, hkey, if_pos ⟨rfl, Ne.symm hsame, rfl⟩] at hprinted
      exact ⟨_, [], .printed history now op hprinted hkey, fun _ => rfl⟩

/-- **The screen is told for every history.** Induction from its end. -/
theorem told_run (h : InStep s) (hkey : s.view.search = none) (history : List (Moment × Op)) :
    Told s history := by
  induction history using List.reverseRecOn with
  | nil =>
    refine ⟨h, fun text htext => ?_⟩
    rw [show s.run [] = s from rfl, hkey] at htext
    cases htext
  | append_singleton history entry ih => exact ih.turn entry.1 entry.2

theorem inStep_new (start : Moment) (url : String) (maxGain : Float) (lifetime : Span) :
    InStep (new start url maxGain lifetime) :=
  ⟨Session.wired_new start url _, fun _ => rfl⟩

/-- **The last listing on the screen** was printed when the first results for its text came in.
Results that came in after that, for the same text, are held by the deck and were not printed. So
once no results are awaited, the listing shows what the deck holds exactly if nothing else came in,
or if what came in last is the same again. -/
theorem listing_told (start : Moment) (url : String) (maxGain : Float) (lifetime : Span)
    (history : List (Moment × Op)) (text : String)
    (hloading : ((new start url maxGain lifetime).run history).session.deck.searchLoading = false)
    (hquery : ((new start url maxGain lifetime).run history).session.deck.searchQuery =
      some text) :
    let s := new start url maxGain lifetime
    let results := (s.run history).session.deck.searchResults
    ∃ shown since, LastListing s text shown history since ∧
      (s.listings history).getLast? = some shown ∧ results = since.getLast?.getD shown ∧
      ((s.listings history).getLast? = some results ↔ ∀ r ∈ since.getLast?, r = shown) := by
  intro s results
  have htold : Told s history := told_run (inStep_new start url maxGain lifetime) rfl history
  have hkey : (s.run history).view.search = some text :=
    (htold.inStep.key hloading).trans hquery
  obtain ⟨shown, since, hlast, hresults⟩ := htold.listed text hkey
  have hshown := hlast.getLast?_listings
  have hheld : results = since.getLast?.getD shown := hresults hloading
  refine ⟨shown, since, hlast, hshown, hheld, ?_⟩
  rw [hshown, hheld, Option.some.injEq]
  cases since.getLast? with
  | none => simp
  | some r => simp [eq_comm]

/-- Two searches overlap. What the first one finds is listed for the second, and what the second one
finds is not. -/
theorem listing_told_overlapping :
    let s := new 0 "ws://player/ws" 6 4000000000
    let frame := fun text : String => Op.session (.receive ⟨1, .frame text⟩)
    let history : List (Moment × Op) := [(0, .session .connect),
      (1, .session (.receive ⟨1, .opened⟩)), (2, .line "search a"), (3, .line "search b"),
      (4, frame "2[\"searchResults\",\x7b\"artists\":[\x7b\"id\":\"1\"\x7d]\x7d]"),
      (5, frame "2[\"searchResults\",\x7b\"artists\":[\x7b\"id\":\"2\"\x7d]\x7d]")]
    (s.run history).session.deck.searchLoading = false ∧
      (s.run history).session.deck.searchQuery = some "b" ∧
      ∃ shown since, LastListing s "b" shown history since ∧
        since.getLast?.getD shown = { artists := [{ id := "2" }] } := by
  intro s frame history
  have hloading : (s.run history).session.deck.searchLoading = false := by decide +kernel
  have hquery : (s.run history).session.deck.searchQuery = some "b" := by decide +kernel
  obtain ⟨shown, since, hlast, -, hheld, -⟩ :=
    listing_told 0 "ws://player/ws" 6 4000000000 history "b" hloading hquery
  exact ⟨hloading, hquery, shown, since, hlast, hheld.symm⟩

/-- One search is made twice and finds nothing the second time. The screen goes on showing what it
found the first time. -/
theorem listing_outdated :
    let s := new 0 "ws://player/ws" 6 4000000000
    let frame := fun text : String => Op.session (.receive ⟨1, .frame text⟩)
    let history : List (Moment × Op) := [(0, .session .connect),
      (1, .session (.receive ⟨1, .opened⟩)), (2, .line "search a"),
      (3, frame "2[\"searchResults\",\x7b\"artists\":[\x7b\"id\":\"1\",\"name\":\"Air\"\x7d]\x7d]"),
      (4, .line "search a"), (5, frame "2[\"searchResults\",\x7b\x7d]")]
    (s.run history).session.deck.searchLoading = false ∧
      (s.run history).session.deck.searchQuery = some "a" ∧
      (s.listings history).map resultLines = [["  artist          1  Air"]] ∧
      resultLines (s.run history).session.deck.searchResults = ["  (no results)"] := by
  intro s frame history
  have hstart : InStep s := inStep_new 0 "ws://player/ws" 6 4000000000
  have hlisted : (s.listed history).map resultLines = [["  artist          1  Air"]] := by
    decide +kernel
  exact ⟨by decide +kernel, by decide +kernel, by rw [listings_eq_listed hstart, hlisted],
    by decide +kernel⟩

end Screen

end Tuner.Console
