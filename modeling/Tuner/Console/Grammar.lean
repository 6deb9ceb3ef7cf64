import Tuner.Console.Order
import Tuner.Proofs.Text.Trim

/-!
# The grammar of orders

What a line for an order looks like, said without the reader of lines. An order has its words, each
of which calls it, and its arguments behind the word. A line for it has blanks between these parts,
and perhaps more blanks before and behind. A line with nothing but blanks asks for the status, as if
the word for it were left out. `WellFormed` says which orders can be typed at all: no argument is
empty or has blanks around it, and where several stand in a row, each ends where the next one can be
seen to begin.
-/

namespace Tuner.Console.Order

/-- A text that can be typed as an argument. -/
structure IsArgument (text : String) : Prop where
  nonempty : text ≠ ""
  trimmed : Text.Trimmed text.toList

instance (text : String) : Decidable (IsArgument text) :=
  decidable_of_iff (text ≠ "" ∧ Text.Trimmed text.toList)
    ⟨fun h => ⟨h.1, h.2⟩, fun h => ⟨h.nonempty, h.trimmed⟩⟩

/-- A text without blanks. -/
structure IsWord (text : String) : Prop where
  nonempty : text ≠ ""
  solid : ∀ c ∈ text.toList, Text.isBlank c = false

instance (text : String) : Decidable (IsWord text) :=
  decidable_of_iff (text ≠ "" ∧ text.toList.all (!Text.isBlank ·) = true)
    ⟨fun h => ⟨h.1, by simpa using h.2⟩, fun h => ⟨h.nonempty, by simpa using h.solid⟩⟩

/-- An order that can be typed. -/
def WellFormed : Order → Prop
  | .station id => IsArgument id
  | .volume percent => 0 ≤ percent ∧ percent ≤ 100 ∧ percent.isNaN = false
  | .search text => IsArgument text
  | .create (.fromGenre id) => IsArgument id
  | .create (.fromSearch id) => IsArgument id
  | .delete id => IsArgument id
  | .rename id name => IsWord id ∧ IsArgument name
  | .seeds id => IsArgument id
  | .unseed id => IsArgument id
  | .quickMix ids => ∀ id ∈ ids, IsArgument id ∧ ',' ∉ id.toList
  | _ => True

/-- The words that call an order. The status is called by no word at all, too. -/
def words : Order → List String
  | .toggle => ["toggle", "p"]
  | .next => ["next", "n"]
  | .love => ["love", "+"]
  | .ban => ["ban", "-"]
  | .tired => ["tired"]
  | .explain => ["explain"]
  | .upcoming => ["upcoming"]
  | .station _ => ["station"]
  | .stations => ["stations"]
  | .volume _ => ["vol", "volume"]
  | .search _ => ["search"]
  | .genres => ["genres"]
  | .create _ => ["create"]
  | .yes => ["yes", "y"]
  | .no => ["no"]
  | .delete _ => ["delete"]
  | .rename _ _ => ["rename"]
  | .seeds _ => ["seeds"]
  | .unseed _ => ["unseed"]
  | .quickMix _ => ["quickmix"]
  | .cancel => ["cancel"]
  | .reconnect => ["reconnect"]
  | .status => ["status", ""]
  | .help => ["help", "?"]
  | .quit => ["quit", "q", "exit"]

/-- Identifiers with commas between them. A comma alone stands for none. -/
def joined (ids : List String) : String :=
  if ids.isEmpty then "," else ",".intercalate ids

/-- Whether some texts are the arguments of an order. A volume may be given by any numeral that
reads as it. -/
def HasArguments (args : List String) : Order → Prop
  | .station id => args = [id]
  | .volume percent => ∃ text, args = [text] ∧ Decimal.parse? text = some percent
  | .search text => args = [text]
  | .create .fromSong => args = ["song"]
  | .create .fromArtist => args = ["artist"]
  | .create (.fromGenre id) => args = ["genre", id]
  | .create (.fromSearch id) => args = ["result", id]
  | .delete id => args = [id]
  | .rename id name => args = [id, name]
  | .seeds id => args = [id]
  | .unseed id => args = [id]
  | .quickMix ids => args = [joined ids]
  | _ => args = []

/-- Some parts in a row, with blanks between them. -/
inductive Spaced : List String → List Char → Prop where
  | single (part : String) : Spaced [part] part.toList
  | cons {part : String} {parts : List String} {gap rest : List Char} (hne : gap ≠ [])
      (hgap : ∀ c ∈ gap, Text.isBlank c = true) (hrest : Spaced parts rest) :
      Spaced (part :: parts) (part.toList ++ (gap ++ rest))

/-- A line of some parts, with blanks between them and perhaps around them. -/
inductive Line (parts : List String) : String → Prop where
  | mk {line : String} {before body behind : List Char}
      (hline : line.toList = before ++ body ++ behind)
      (hbefore : ∀ c ∈ before, Text.isBlank c = true) (hbody : Spaced parts body)
      (hbehind : ∀ c ∈ behind, Text.isBlank c = true) : Line parts line

/-- A line for an order: a word for it, and its arguments. -/
def IsLine (line : String) (o : Order) : Prop :=
  ∃ word ∈ o.words, ∃ args, o.HasArguments args ∧ Line (word :: args) line

end Tuner.Console.Order
