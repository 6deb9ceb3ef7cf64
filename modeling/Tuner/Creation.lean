/-!
# Making stations

A station can be made from the song that plays, from its artist, from a genre, or from something
that a search found.
-/

namespace Tuner

/-- What kind of thing a station is made from. -/
inductive CreationKind where
  | song
  | artist
  | genre
  | search
  deriving Repr, DecidableEq

/-- The name of a kind. -/
def CreationKind.label : CreationKind → String
  | song => "song"
  | artist => "artist"
  | genre => "genre"
  | search => "search"

/-- A wish for a new station. -/
inductive CreationRequest where
  | fromSong
  | fromArtist
  | fromGenre (genreId : String)
  | fromSearch (musicId : String)
  deriving Repr, DecidableEq

/-- The kind of thing that a wished station is made from. -/
def CreationRequest.kind : CreationRequest → CreationKind
  | fromSong => .song
  | fromArtist => .artist
  | fromGenre _ => .genre
  | fromSearch _ => .search

end Tuner
