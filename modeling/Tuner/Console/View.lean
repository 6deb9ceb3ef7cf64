import Tuner.Console.Display

/-!
# The view

After every change the view prints what is new. It remembers a key of each part that it has
printed, and prints the part again when the key differs: the status line itself, the identifier of
a new station, the number of genres, the search text and the station whose seeds are shown. Notices
are printed once.
-/

namespace Tuner.Console

/-- The keys of what was printed last. -/
structure View where
  status : String := ""
  prompt : Option String := none
  genreCount : Nat := 0
  search : Option String := none
  seeds : Option String := none
  deriving Repr, DecidableEq, Inhabited

namespace View

def countGenres (categories : List GenreCategory) : Nat :=
  categories.foldl (fun n c => n + c.genres.length) 0

/-- The station whose seeds are shown. -/
def seedsKey (d : Deck) : Option String :=
  d.stationInfo.bind (·.stationId)

/-- The keys of what the deck shows. A search whose results are awaited keeps the old key. -/
def keys (now : Moment) (d : Deck) (v : View) : View :=
  { status := statusLine now d
    prompt := d.newStation.map (·.id)
    genreCount := countGenres d.genres
    search := if d.searchLoading then v.search else d.searchQuery
    seeds := seedsKey d }

/-- The status, if it differs or is forced. Only a forced status tells how far the song is. -/
def statusItems (now : Moment) (force : Bool) (d : Deck) (v : View) : List Item :=
  if force then [.status (fullStatusLine now d)]
  else if statusLine now d ≠ v.status then [.status (statusLine now d)]
  else []

/-- The question about a new station, if it is another than before. -/
def promptItems (d : Deck) (v : View) : List Item :=
  if d.newStation.map (·.id) ≠ v.prompt then (d.newStation.map (.prompt ·.name)).toList else []

/-- The genres, if their number differs. -/
def genreItems (d : Deck) (v : View) : List Item :=
  if countGenres d.genres ≠ v.genreCount then [.genres d.genres] else []

/-- The search results, once they are there for another search than before. -/
def resultItems (d : Deck) (v : View) : List Item :=
  if !d.searchLoading && d.searchQuery ≠ v.search && d.searchQuery.isSome then
    [.results d.searchResults]
  else []

/-- The seeds, if they are those of another station than before. -/
def seedItems (d : Deck) (v : View) : List Item :=
  if seedsKey d ≠ v.seeds then (d.stationInfo.map (.seeds ·.seeds)).toList else []

/-- The notices that have not expired. -/
def noticeItems (now : Moment) (d : Deck) : List Item :=
  (d.notices.expire now).queue.map fun n => .notice n.message n.severity

/-- What is printed after a change. -/
def items (now : Moment) (force : Bool) (d : Deck) (v : View) : List Item :=
  v.statusItems now force d ++ v.promptItems d ++ v.genreItems d ++ v.resultItems d
    ++ v.seedItems d ++ noticeItems now d

/-- The deck once all notices are printed. -/
def settle (d : Deck) : Deck :=
  { d with notices := d.notices.drain }

end View

end Tuner.Console
