import Mathlib.Data.List.Induction
import Tuner.Proofs.Console.Printed

/-!
# Which genres and seeds are on the screen

The view remembers how many genres it has listed and the station whose seeds it has listed, and
lists them again when that key differs. The key does not tell the whole part: other genres that are
as many are not listed, nor are other seeds of the same station, nor seeds that come in without a
station after none were shown.

A listing is an item that the view prints, not a line. An empty list of genres or seeds is listed by
an item without lines: the lines of the listing before stay the last ones to be seen, and the law
counts the empty listing all the same.

`Part` is a part of the deck with its key. `LastListed` says which deck of a run was listed last:
the last one at which the view had a new key and something to list. `getLast?_listed_iff` makes it
the law of the screen, and `exists_lastListed` finds it for a key other than the first one.
-/

namespace Tuner.Console

/-- The genres that an item lists. An empty list is a listing too, though one without lines. -/
def Item.genres? : Item → Option (List GenreCategory)
  | .genres categories => some categories
  | _ => none

/-- The seeds that an item lists. An empty list is a listing too, though one without lines. -/
def Item.seeds? : Item → Option (List Seed)
  | .seeds list => some list
  | _ => none

/-! ## Parts that are listed by a key -/

/-- A part of the deck that the view lists when its key differs from the remembered one. -/
structure Part (κ α : Type) [DecidableEq κ] where
  /-- The kind of the items that list the part. -/
  kind : Item.Kind
  key : Deck → κ
  /-- What is listed of the part, if anything is. -/
  content : Deck → Option α
  remembered : View → κ
  /-- What an item lists of the part. -/
  reads : Item → Option α
  kind_ne_order : kind ≠ .order
  reads_of_kind : ∀ item : Item, item.kind ≠ kind → reads item = none
  reads_block : ∀ now force d v, (v.block now force d kind).filterMap reads =
    if key d ≠ remembered v then (content d).toList else []
  remembered_keys : ∀ now d v, remembered (View.keys now d v) = key d
  key_settle : ∀ d, key (View.settle d) = key d
  content_settle : ∀ d, content (View.settle d) = content d

/-- The genres, by their number. -/
def Part.genres : Part Nat (List GenreCategory) where
  kind := .genres
  key d := View.countGenres d.genres
  content d := some d.genres
  remembered v := v.genreCount
  reads := Item.genres?
  kind_ne_order := by decide
  reads_of_kind item h := by
    cases item with
    | genres => exact absurd rfl h
    | _ => rfl
  reads_block now force d v := by
    show (v.genreItems d).filterMap Item.genres? = _
    unfold View.genreItems
    split <;> rfl
  remembered_keys _ _ _ := rfl
  key_settle _ := rfl
  content_settle _ := rfl

/-- The seeds, by their station. -/
def Part.seeds : Part (Option String) (List Seed) where
  kind := .seeds
  key := View.seedsKey
  content d := d.stationInfo.map (·.seeds)
  remembered v := v.seeds
  reads := Item.seeds?
  kind_ne_order := by decide
  reads_of_kind item h := by
    cases item with
    | seeds => exact absurd rfl h
    | _ => rfl
  reads_block now force d v := by
    show (v.seedItems d).filterMap Item.seeds? = _
    unfold View.seedItems
    split
    · cases d.stationInfo <;> rfl
    · rfl
  remembered_keys _ _ _ := rfl
  key_settle _ := rfl
  content_settle _ := rfl

namespace Part

variable {κ α : Type} [DecidableEq κ] {p : Part κ α} {start d d' : Deck} {decks : List Deck}
  {shown : α}

/-- What is listed of a part when the deck changes. -/
def listing (p : Part κ α) (d d' : Deck) : List α :=
  if p.key d' ≠ p.key d then (p.content d').toList else []

/-- What is listed of a part as the deck goes through some states. -/
def listed (p : Part κ α) (d : Deck) : List Deck → List α
  | [] => []
  | d' :: rest => p.listing d d' ++ p.listed d' rest

/-- Nothing is listed of a part when the deck changes: the key is the same, or nothing is there. -/
def Keeps (p : Part κ α) (d d' : Deck) : Prop :=
  p.key d' = p.key d ∨ p.content d' = none

/-- **The deck that was listed last**, as the deck goes through some states. -/
inductive LastListed (p : Part κ α) (start d : Deck) : List Deck → Prop where
  | listed (before : List Deck) (hchanged : p.key d ≠ p.key (before.getLastD start))
      (hthere : (p.content d).isSome) : LastListed p start d (before ++ [d])
  | kept {decks : List Deck} (h : LastListed p start d decks) (d' : Deck)
      (hkeeps : p.Keeps (decks.getLastD start) d') : LastListed p start d (decks ++ [d'])

/-- While the key stays, or with nothing there, nothing is listed. -/
theorem listing_of_keeps (h : p.Keeps d d') : p.listing d d' = [] := by
  unfold listing
  cases h with
  | inl hkey => rw [if_neg (not_not_intro hkey)]
  | inr hnone => rw [hnone, Option.toList_none, ite_self]

/-- A new key with something there is one listing. -/
theorem listing_of_changed (hkey : p.key d' ≠ p.key d) (hshown : p.content d' = some shown) :
    p.listing d d' = [shown] := by
  rw [listing, if_pos hkey, hshown]
  rfl

theorem listed_concat (p : Part κ α) (start : Deck) (decks : List Deck) (d : Deck) :
    p.listed start (decks ++ [d]) =
      p.listed start decks ++ p.listing (decks.getLastD start) d := by
  induction decks generalizing start with
  | nil => exact List.append_nil _
  | cons d' rest ih =>
    rw [List.cons_append, listed, listed, ih, List.append_assoc, List.getLastD_cons]

/-- What was listed last is what that deck holds. -/
theorem getLast?_listed_iff : (p.listed start decks).getLast? = some shown ↔
    ∃ d, LastListed p start d decks ∧ p.content d = some shown := by
  constructor
  · intro h
    -- From the right: the last change lists something, or what was listed before it stands.
    induction decks using List.reverseRecOn with
    | nil => cases h
    | append_singleton decks d' ih =>
      rw [listed_concat] at h
      by_cases hkeeps : p.Keeps (decks.getLastD start) d'
      · rw [listing_of_keeps hkeeps, List.append_nil] at h
        obtain ⟨d, hlast, hshown⟩ := ih h
        exact ⟨d, hlast.kept d' hkeeps, hshown⟩
      · obtain ⟨hchanged, hthere⟩ := not_or.mp hkeeps
        obtain ⟨x, hx⟩ := Option.ne_none_iff_exists'.mp hthere
        rw [listing_of_changed hchanged hx, List.getLast?_concat, ← hx] at h
        exact ⟨d', .listed decks hchanged (by rw [hx]; rfl), h⟩
  · -- The other way round the induction is on what was listed last.
    rintro ⟨d, hlast, hshown⟩
    induction hlast with
    | listed before hchanged _ =>
      rw [listed_concat, listing_of_changed hchanged hshown, List.getLast?_concat]
    | kept _ d' hkeeps ih => rw [listed_concat, listing_of_keeps hkeeps, List.append_nil, ih]

/-- If the key is not the one at the start, the deck that brought it was listed last, as long as
there is something to list wherever that key is. -/
theorem exists_lastListed (hkey : p.key (decks.getLastD start) ≠ p.key start)
    (hthere : ∀ d, p.key d = p.key (decks.getLastD start) → (p.content d).isSome) :
    ∃ d, LastListed p start d decks ∧ p.key d = p.key (decks.getLastD start) := by
  induction decks using List.reverseRecOn with
  | nil => exact absurd rfl hkey
  | append_singleton decks d' ih =>
    rw [List.getLastD_concat] at hkey hthere ⊢
    by_cases hsame : p.key d' = p.key (decks.getLastD start)
    · -- The key was there already, so the deck that brought it is further back.
      rw [hsame] at hkey hthere ⊢
      obtain ⟨d, hlast, hd⟩ := ih hkey hthere
      exact ⟨d, hlast.kept d' (.inl hsame), hd⟩
    · exact ⟨d', .listed decks hsame (hthere d' rfl), rfl⟩

end Part

/-- The key is a station only if seeds of that station are there. -/
theorem seedsKey_eq_some_iff {d : Deck} {station : String} :
    View.seedsKey d = some station ↔
      ∃ info, d.stationInfo = some info ∧ info.stationId = some station :=
  Option.bind_eq_some_iff

theorem isSome_content_seeds {d : Deck} {station : String} (h : View.seedsKey d = some station) :
    (Part.seeds.content d).isSome := by
  obtain ⟨info, hinfo, -⟩ := seedsKey_eq_some_iff.mp h
  exact Option.isSome_map.trans (Option.isSome_of_eq_some hinfo)

namespace Screen

variable {κ α : Type} [DecidableEq κ] {p : Part κ α} {s : Screen} {now : Moment} {op : Op}

/-! ## Turns -/

/-- The view remembers the part as it is. -/
def CaughtUp (p : Part κ α) (s : Screen) : Prop :=
  p.remembered s.view = p.key s.session.deck

/-- A view remembers the key that it has seen, so a turn that ends with one catches up; and a turn
without a view changes nothing. -/
theorem caughtUp_turn (h : s.CaughtUp p) (now : Moment) (op : Op) :
    (s.turn now op).CaughtUp p := by
  cases turn_cases now s op with
  | unseen hreached hturn hitems => rwa [hturn]
  | seen printed force hown hturn hitems =>
    rw [hturn]
    show p.remembered (View.keys now (s.reached now op).deck s.view) =
      p.key (View.settle (s.reached now op).deck)
    rw [p.remembered_keys, p.key_settle]

/-- What a turn prints of a part is told by the decks before and after it. -/
theorem reads_turn (h : s.CaughtUp p) (now : Moment) (op : Op) :
    (s.turnItems now op).filterMap p.reads =
      p.listing s.session.deck (s.turn now op).session.deck := by
  cases turn_cases now s op with
  | unseen hreached hturn hitems =>
    rw [hturn, hitems, Part.listing_of_keeps (.inl rfl)]
    rfl
  | seen printed force hown hturn hitems =>
    rw [hturn, hitems, filterMap_seen p.reads_of_kind p.kind_ne_order hown, p.reads_block]
    -- The items are those of the session that was reached; the turn leaves it with no notices.
    show _ = p.listing s.session.deck (View.settle (s.reached now op).deck)
    rw [Part.listing, p.key_settle, p.content_settle, show p.remembered s.view = _ from h]

/-! ## Histories -/

/-- The decks after each turn of a history. -/
def decks (s : Screen) : List (Moment × Op) → List Deck
  | [] => []
  | (now, op) :: rest => (s.turn now op).session.deck :: (s.turn now op).decks rest

/-- The listings of a part that a history prints, in order, and among them those without lines. -/
def listingsOf (p : Part κ α) (s : Screen) (history : List (Moment × Op)) : List α :=
  (s.printed history).filterMap p.reads

theorem getLastD_decks (s : Screen) (history : List (Moment × Op)) :
    (s.decks history).getLastD s.session.deck = (s.run history).session.deck := by
  induction history generalizing s with
  | nil => rfl
  | cons entry rest ih =>
    obtain ⟨now, op⟩ := entry
    rw [decks, List.getLastD_cons, ih]
    rfl

/-- What a history prints of a part is told by its decks. Induction on the history, where the view
has caught up at each turn. -/
theorem listingsOf_eq_listed (h : s.CaughtUp p) (history : List (Moment × Op)) :
    s.listingsOf p history = p.listed s.session.deck (s.decks history) := by
  induction history generalizing s with
  | nil => rfl
  | cons entry rest ih =>
    obtain ⟨now, op⟩ := entry
    rw [listingsOf, printed, List.filterMap_append, reads_turn h]
    rw [← listingsOf, ih (caughtUp_turn h now op)]
    rfl

/-- So the listing that was printed last is that of the deck that was listed last. -/
theorem getLast?_listingsOf_iff {shown : α} (h : s.CaughtUp p) (history : List (Moment × Op)) :
    (s.listingsOf p history).getLast? = some shown ↔
      ∃ d, p.LastListed s.session.deck d (s.decks history) ∧ p.content d = some shown := by
  rw [listingsOf_eq_listed h, Part.getLast?_listed_iff]

/-- A part whose key is not the one at the start was listed since that key came in. -/
theorem exists_lastListing (h : s.CaughtUp p) (history : List (Moment × Op))
    (hkey : p.key (s.run history).session.deck ≠ p.key s.session.deck)
    (hthere : ∀ d, p.key d = p.key (s.run history).session.deck → (p.content d).isSome) :
    ∃ d, p.LastListed s.session.deck d (s.decks history) ∧
      p.key d = p.key (s.run history).session.deck ∧
      (s.listingsOf p history).getLast? = p.content d := by
  rw [← getLastD_decks] at hkey hthere ⊢
  obtain ⟨d, hlast, hd⟩ := Part.exists_lastListed hkey hthere
  obtain ⟨shown, hshown⟩ := Option.isSome_iff_exists.mp (hthere d hd)
  refine ⟨d, hlast, hd, ?_⟩
  rw [hshown]
  exact (getLast?_listingsOf_iff h history).mpr ⟨d, hlast, hshown⟩

/-- What a screen shows of the genres and of the seeds after a history. -/
structure Relisted (s : Screen) (history : List (Moment × Op)) : Prop where
  /-- While there are genres, the last listing is of as many: of those that came in when their
  number changed last. -/
  genres : 0 < View.countGenres (s.run history).session.deck.genres →
    ∃ d, Part.genres.LastListed s.session.deck d (s.decks history) ∧
      View.countGenres d.genres = View.countGenres (s.run history).session.deck.genres ∧
      (s.listingsOf .genres history).getLast? = some d.genres
  /-- So it shows the genres that are there exactly if those are the same. -/
  genresCurrent : (s.listingsOf .genres history).getLast? =
      some (s.run history).session.deck.genres ↔
    ∃ d, Part.genres.LastListed s.session.deck d (s.decks history) ∧
      d.genres = (s.run history).session.deck.genres
  /-- While there are seeds of a station, the last listing is of that station: of the seeds that
  were there when it became the one that is shown. -/
  seeds : ∀ info station, (s.run history).session.deck.stationInfo = some info →
    info.stationId = some station →
    ∃ d shown, Part.seeds.LastListed s.session.deck d (s.decks history) ∧
      d.stationInfo = some shown ∧ shown.stationId = some station ∧
      (s.listingsOf .seeds history).getLast? = some shown.seeds
  /-- Whether or not they are of a station, the last listing shows the seeds that are there exactly
  if those that were listed last are the same. An empty listing counts, though it has no lines. -/
  seedsCurrent : ∀ info, (s.run history).session.deck.stationInfo = some info →
    ((s.listingsOf .seeds history).getLast? = some info.seeds ↔
      ∃ d shown, Part.seeds.LastListed s.session.deck d (s.decks history) ∧
        d.stationInfo = some shown ∧ shown.seeds = info.seeds)

/-- **What is listed last** was there when the key of its part changed last, and the view had
something to list. It is current exactly if what is there now is the same: a key that stays the
same hides any change of what it stands for. -/
theorem relisted (start : Moment) (url : String) (maxGain : Float) (lifetime : Span)
    (history : List (Moment × Op)) : Relisted (new start url maxGain lifetime) history := by
  have hgenres : (new start url maxGain lifetime).CaughtUp .genres := rfl
  have hseeds : (new start url maxGain lifetime).CaughtUp .seeds := rfl
  refine ⟨fun hthere => ?_, ?_, fun info station hinfo hstation => ?_, fun info _ => ?_⟩
  · exact exists_lastListing hgenres history (Nat.ne_of_gt hthere) fun d _ => rfl
  · rw [getLast?_listingsOf_iff hgenres]
    exact exists_congr fun d => and_congr_right fun _ => Option.some_inj
  · have hkey : Part.seeds.key ((new start url maxGain lifetime).run history).session.deck =
        some station := seedsKey_eq_some_iff.mpr ⟨info, hinfo, hstation⟩
    have hnew : Part.seeds.key (new start url maxGain lifetime).session.deck = none := rfl
    obtain ⟨d, hlast, hd, hlisted⟩ := exists_lastListing hseeds history (by simp [hkey, hnew])
      fun d hd => isSome_content_seeds (hd.trans hkey)
    obtain ⟨shown, hshown, hgot⟩ := seedsKey_eq_some_iff.mp (hd.trans hkey)
    refine ⟨d, shown, hlast, hshown, hgot, ?_⟩
    rw [hlisted]
    exact congrArg (Option.map StationInfo.seeds) hshown
  · rw [getLast?_listingsOf_iff hseeds]
    exact exists_congr fun d =>
      (and_congr_right fun _ => Option.map_eq_some_iff).trans exists_and_left.symm

/-- Other genres come in that are as many, and the screen goes on showing those it listed. Seeds
come in without a station, and are not listed at all. -/
theorem relisting_missed :
    let s := new 0 "ws://player/ws" 6 4000000000
    let frame := fun text : String => Op.session (.receive ⟨1, .frame text⟩)
    let history : List (Moment × Op) := [(0, .session .connect),
      (1, .session (.receive ⟨1, .opened⟩)),
      (2, frame "2[\"genres\",[\x7b\"name\":\"Rock\",\"genres\":[\x7b\"id\":\"1\"\x7d]\x7d]]"),
      (3, frame "2[\"genres\",[\x7b\"name\":\"Jazz\",\"genres\":[\x7b\"id\":\"2\"\x7d]\x7d]]"),
      (4, frame "2[\"stationInfo\",\x7b\"seeds\":[\x7b\"id\":\"3\",\"name\":\"Air\"\x7d]\x7d]")]
    let now := (s.run history).session.deck
    0 < View.countGenres now.genres ∧
      (s.listingsOf .genres history).map genreLines = [["[Rock]", "           1  "]] ∧
      genreLines now.genres = ["[Jazz]", "           2  "] ∧
      now.stationInfo.map (·.seeds.map seedLine) = some ["  seed          3  Air ()"] ∧
      s.listingsOf .seeds history = [] := by
  intro s frame history now
  have hgenres : s.CaughtUp .genres := rfl
  have hseeds : s.CaughtUp .seeds := rfl
  rw [listingsOf_eq_listed hgenres, listingsOf_eq_listed hseeds]
  decide +kernel

end Screen

end Tuner.Console
