import Tuner.Proofs.Console.Course
import Tuner.Proofs.Deck.Dialogs
import Tuner.Proofs.Text.Trim

/-!
# What an order asks of the player

`Order.commands` lists the commands of each order. It speaks of the deck in three places only: what
plays, the new station that the user is asked about, and whether the seeds of a station are shown.

The orders on stations go through the dialogs, and there the list is right only if the dialog can be
gone through from its start. `Flows.Settled` says so, and `course_order` derives the commands and
the dialogs afterwards, order by order. A new name must not be one that the dialog refuses, and no
line gives such a name (`tidy_of_parse`).
-/

namespace Tuner

/-! ## Settled dialogs -/

/-- The dialog on seeds is not under way, or shows the seeds of a station. -/
inductive Flow.Resting : Flow → Prop where
  | idle : Resting {}
  | reviewing (id : String) : Resting { position := 1, station := some id }

/-- No dialog is under way, except that the seeds of a station may be shown. -/
structure Flows.Settled (fs : Flows) : Prop where
  others : fs = { seeds := fs.seeds }
  seeds : fs.seeds.Resting

namespace Deck

/-- The deck with no dialog under way but perhaps the one on seeds. -/
def withSeeds (f : Flow) (d : Deck) : Deck :=
  { d with flows := { seeds := f } }

variable {now : Moment} {up : Bool} {d d' : Deck} {f : Flow} {id name : String}
variable {i : Intent} {rest : List Intent} {kind : CreationKind} {request : CreationRequest}

/-- A settled deck is one with a resting flow for the seeds and nothing else, so the courses below
are worked out on such decks. -/
theorem exists_withSeeds (h : d.flows.Settled) : ∃ f, f.Resting ∧ d = d.withSeeds f := by
  refine ⟨d.flows.seeds, h.seeds, ?_⟩
  rw [withSeeds, ← h.others]

/-- An intent that succeeds without a command leaves the rest of the course to the deck after it. -/
theorem course_of_settled (h : d.perform now i = .settled true d') :
    d.course now up (i :: rest) = d'.course now up rest := by
  rw [course, h]
  rfl

/-! ## Dialogs on a station -/

/-- The dialog begins and ends at its start, whether the link takes the command or not. -/
theorem course_delete :
    (d.withSeeds f).course now up [.chooseStation .delete id, .confirm .delete] =
      ⟨d.withSeeds f, [.deleteStation id], up⟩ := by
  cases up <;> rfl

/-- To rename a station takes three intents, and the dialog is at its start again after the last
one. -/
theorem course_rename (hname : Text.trim name = name) (hne : name ≠ "") :
    (d.withSeeds f).course now up [.chooseStation .rename id, .setName name, .confirm .rename] =
      ⟨d.withSeeds f, [.renameStation id name], up⟩ := by
  -- The name begins as the old one, whatever that is, and is replaced.
  have hchoose : ∃ text, (d.withSeeds f).perform now (.chooseStation .rename id) =
      .settled true ((d.withSeeds f).setFlow .rename
        { position := 1, station := some id, text }) := ⟨_, rfl⟩
  obtain ⟨text, hchoose⟩ := hchoose
  have hset : ((d.withSeeds f).setFlow .rename
        { position := 1, station := some id, text }).perform now (.setName name) =
      .settled true ((d.withSeeds f).setFlow .rename
        { position := 2, station := some id, text := name }) := by
    have hnot : name.isEmpty = false := by simpa using hne
    show setName name _ = _
    rw [setName, hname, hnot]
    rfl
  rw [course_of_settled hchoose, course_of_settled hset]
  cases up <;> rfl

/-- The seeds of a station are asked for afresh, and that succeeds whether or not the link is up. -/
theorem course_seeds :
    d.course now up [.cancel .seeds, .chooseStation .seeds id] =
      ⟨{ d.setFlow .seeds { position := 1, station := some id } with stationInfo := none },
        [.getStationInfo id], true⟩ := by
  cases up <;> rfl

/-- While seeds are shown one of them can be picked, and to confirm it ends the review. -/
theorem course_unseed {station : String} :
    (d.withSeeds { position := 1, station := some station }).course now up
        [.chooseItem .seeds id, .confirm .seeds] =
      ⟨{ d.withSeeds {} with stationInfo := none }, [.deleteSeed id], up⟩ := by
  cases up <;> rfl

/-- With no seeds shown there is none to pick, and the order fails before anything is sent. -/
theorem course_unseed_idle :
    (d.withSeeds {}).course now up [.chooseItem .seeds id, .confirm .seeds] =
      ⟨d.withSeeds {}, [], false⟩ :=
  rfl

/-! ## New stations -/

/-- The last command of a wish for a new station, none if it needs a song and none plays. -/
def creationCommand? (token : String) : CreationRequest → Option Command
  | .fromSong => if token.isEmpty then none else some (.createFrom (.song token))
  | .fromArtist => if token.isEmpty then none else some (.createFrom (.artist token))
  | .fromGenre id => some (.addGenre id)
  | .fromSearch id => some (.createFrom (.music id))

/-- The command of a request is told from the track alone. -/
theorem command_create (request : CreationRequest) :
    (d.create now request).command = creationCommand? d.song.trackToken request := by
  have htrack : ∀ kind source, (d.createFromTrack now kind source).command =
      if d.song.trackToken.isEmpty then none
      else some (.createFrom (source d.song.trackToken)) := by
    intro kind source
    rw [createFromTrack]
    split <;> rfl
  cases request with
  | fromSong => exact htrack .song .song
  | fromArtist => exact htrack .artist .artist
  | fromGenre id => rfl
  | fromSearch id => rfl

/-- The deck with the dialog for new stations at some place, where it was begun afresh. -/
def creating (g : Flow) (d : Deck) : Deck :=
  (d.cancel .createStation).setFlow .createStation g

/-- What begins with a cancelled dialog goes on from a dialog at its start. -/
theorem course_cancel :
    d.course now up (.cancel .createStation :: rest) = (d.creating {}).course now up rest :=
  rfl

/-- To confirm the dialog issues what it was filled in for, and no dialog is under way after
that. -/
theorem course_confirm (now : Moment) (up : Bool) (d : Deck) {g : Flow}
    (hat : g.isAt .createStation .confirm = true) (h : requestOf g = some request) :
    let c := (d.creating g).course now up [.confirm .createStation]
    c.commands = (creationCommand? d.song.trackToken request).toList ∧
      c.deck.flows = d.flows.set .createStation {} := by
  have hsubmit : (d.creating g).submit now .createStation = (d.creating g).create now request := by
    have hflow : (d.creating g).flow .createStation = g := rfl
    simp only [submit, hflow, h]
  have hperform : (d.creating g).perform now (.confirm .createStation) =
      { (d.creating g).create now request with
        deck := ((d.creating g).create now request).deck.cancel .createStation } := by
    rw [← hsubmit]
    exact confirm_eq hat
  -- the dialog is cancelled last, so its flow is empty whatever the request did
  rw [course_singleton, hperform]
  refine ⟨congrArg Option.toList (command_create request), ?_⟩
  show (((d.creating g).create now request).deck.cancel .createStation).flows = _
  rw [flows_cancel, creationOnly_create request]
  rfl

/-- A song or an artist needs no search. -/
theorem course_createPlaying (now : Moment) (up : Bool) (d : Deck)
    (h : kind = .song ∧ request = .fromSong ∨ kind = .artist ∧ request = .fromArtist) :
    let c := d.course now up [.cancel .createStation, .chooseSource kind, .confirm .createStation]
    c.commands = (creationCommand? d.song.trackToken request).toList ∧
      c.deck.flows = d.flows.set .createStation {} := by
  have hsource : (d.creating {}).perform now (.chooseSource kind) =
      .settled true (d.creating { position := 2, source := some kind }) := by
    rcases h with ⟨rfl, -⟩ | ⟨rfl, -⟩ <;> rfl
  rw [course_cancel, course_of_settled hsource]
  refine course_confirm now up d rfl ?_
  rcases h with ⟨rfl, rfl⟩ | ⟨rfl, rfl⟩ <;> rfl

theorem course_createFound (now : Moment) (up : Bool) (d : Deck) (id : String) :
    let c := d.course now up [.cancel .createStation, .chooseSource .search,
      .chooseItem .createStation id, .confirm .createStation]
    c.commands = [.createFrom (.music id)] ∧ c.deck.flows = d.flows.set .createStation {} := by
  have hsource : (d.creating {}).perform now (.chooseSource .search) =
      .settled true (d.creating { position := 1, source := some .search }) := rfl
  have hitem : (d.creating { position := 1, source := some .search }).perform now
        (.chooseItem .createStation id) =
      .settled true (d.creating
        { position := 2, source := some .search, selection := some id }) := rfl
  have hrequest : requestOf { position := 2, source := some .search, selection := some id } =
      some (.fromSearch id) := rfl
  rw [course_cancel, course_of_settled hsource, course_of_settled hitem]
  exact course_confirm now up d rfl hrequest

/-- A genre is picked from a list that is asked for first. -/
theorem course_createGenre (now : Moment) (up : Bool) (d : Deck) (id : String) :
    let c := d.course now up [.cancel .createStation, .chooseSource .genre,
      .chooseItem .createStation id, .confirm .createStation]
    c.commands = [.getGenres, .addGenre id] ∧ c.deck.flows = d.flows.set .createStation {} := by
  let loading : Deck := { d with genresLoading := true }
  have hsource : (d.creating {}).perform now (.chooseSource .genre) =
      ⟨loading.creating { position := 1, source := some .genre }, some .getGenres, .fixed true⟩ :=
    rfl
  have hitem : (loading.creating { position := 1, source := some .genre }).perform now
        (.chooseItem .createStation id) =
      .settled true (loading.creating
        { position := 2, source := some .genre, selection := some id }) := rfl
  have hrequest : requestOf { position := 2, source := some .genre, selection := some id } =
      some (.fromGenre id) := rfl
  obtain ⟨hcommands, hflows⟩ := course_confirm now up loading rfl hrequest
  rw [course_cancel, course_of_succeeds (by rw [hsource]; rfl), hsource, course_of_settled hitem]
  exact ⟨congrArg (Command.getGenres :: ·) hcommands, hflows⟩

end Deck

/-! ## Orders as they are typed -/

namespace Console.Order

/-- A new name that is neither empty nor surrounded by blanks. Of other orders nothing is asked. -/
def Tidy : Order → Prop
  | .rename _ name => Text.trim name = name ∧ name ≠ ""
  | _ => True

variable {word what text id name : String} {rest : List Char} {o : Order}

/-- A name is read as what is left of the line, without the blanks around it, and nothing left is no
name. -/
theorem tidy_of_renameOf (h : renameOf text = .ok o) : o.Tidy := by
  unfold renameOf split at h
  dsimp only at h
  split at h
  · cases h
  · next hne =>
    obtain rfl := Except.ok.inj h
    have htrim := Text.trimBoth_of_trimmed
      (Text.trimmed_trimBoth (Text.splitBlank text.toList).2)
    refine ⟨?_, fun hempty => hne ?_⟩
    · rw [Text.trim, String.toList_ofList, htrim]
    · rw [← String.toList_ofList (l := Text.trimBoth _), hempty]
      rfl

/-! A name comes from one word only, and that word reads it with `renameOf`. -/

theorem exists_of_argument {read : String → Except OrderError Order}
    (h : (argument word what rest).bind read = .ok o) : ∃ text, read text = .ok o := by
  unfold argument at h
  split at h
  · cases h
  · exact ⟨_, h⟩

theorem argument_map_ne {f : String → Order} (h : ∀ text, f text ≠ o) :
    (argument word what rest).map f ≠ .ok o := by
  unfold argument
  split
  · nofun
  · exact fun heq => h _ (Except.ok.inj heq)

theorem volume?_ne_rename : volume? text ≠ .ok (.rename id name) := by
  unfold volume?
  split
  · nofun
  · split <;> nofun

theorem creation_ne_rename : creation rest ≠ .ok (.rename id name) := by
  unfold creation
  dsimp only
  split
  · nofun
  · nofun
  · split <;> nofun
  · split <;> nofun
  · nofun

/-- Of all words one gives a new name, and it reads the name with `renameOf`. -/
theorem renameOf_of_ofWord (h : ofWord word rest = .ok (.rename id name)) :
    ∃ text, renameOf text = .ok (.rename id name) := by
  unfold ofWord at h
  split at h
  all_goals first
    | cases h
    | exact absurd h creation_ne_rename
    | exact absurd h (argument_map_ne fun _ heq => by cases heq)
    | exact absurd (exists_of_argument h) fun ⟨_, hread⟩ => volume?_ne_rename hread
    | exact exists_of_argument h

/-- **Whatever is typed, a new name is tidy.** -/
theorem tidy_of_parse {line : String} (h : parse line = .ok o) : o.Tidy := by
  cases o with
  | rename id name =>
    obtain ⟨text, hread⟩ := renameOf_of_ofWord h
    exact tidy_of_renameOf hread
  | _ => trivial

/-! ## What an order asks of the player -/

/-- The commands of an order, in order. `d` is the deck at that time. -/
def commands (d : Deck) : Order → List Command
  | .toggle => [.action .togglePlayback]
  | .next => [.action .skip]
  | .love => [.action .love]
  | .ban => [.action .ban]
  | .tired => [.action .tired]
  | .explain => [.action .explain]
  | .upcoming => [.action .upcoming]
  | .station id => [.changeStation id]
  | .volume percent => [.setGain (Gain.clamp 0 100 percent)]
  | .search text => [.search (Text.trim text)]
  | .genres => [.getGenres]
  | .create (.fromGenre id) => [.getGenres, .addGenre id]
  | .create request => (Deck.creationCommand? d.song.trackToken request).toList
  | .yes => (d.newStation.map (.changeStation ·.id)).toList
  | .delete id => [.deleteStation id]
  | .rename id name => [.renameStation id name]
  | .seeds id => [.getStationInfo id]
  | .unseed id => if d.flows.seeds.isAt .seeds .reviewSeeds then [.deleteSeed id] else []
  | .quickMix ids => [.setQuickMix ids]
  | .stations | .no | .cancel | .reconnect | .status | .help | .quit => []

/-- The dialogs after an order that needs the player. -/
def flowsAfter (fs : Flows) : Order → Flows
  | .seeds id => { seeds := { position := 1, station := some id } }
  | .unseed _ => {}
  | _ => fs

end Console.Order

namespace Deck

variable {d : Deck} {intents : List Intent}

open Console

/-- A request for a new station, whichever of the four: its commands go out, and the dialog for it
returns to its start. -/
theorem course_creation (now : Moment) (up : Bool) (d : Deck) {request : CreationRequest}
    (h : (Order.create request).intents? = some intents) :
    let c := d.course now up intents
    c.commands = (Order.create request).commands d ∧
      c.deck.flows = d.flows.set .createStation {} := by
  cases request with
  | fromSong =>
    obtain rfl := Option.some.inj h
    exact course_createPlaying now up d (.inl ⟨rfl, rfl⟩)
  | fromArtist =>
    obtain rfl := Option.some.inj h
    exact course_createPlaying now up d (.inr ⟨rfl, rfl⟩)
  | fromGenre id =>
    obtain rfl := Option.some.inj h
    exact course_createGenre now up d id
  | fromSearch id =>
    obtain rfl := Option.some.inj h
    exact course_createFound now up d id

/-- **What comes of an order** on a deck whose dialogs are settled. -/
theorem course_order (now : Moment) (up : Bool) {o : Order} (hd : d.flows.Settled) (ho : o.Tidy)
    (h : o.intents? = some intents) :
    let c := d.course now up intents
    c.commands = o.commands d ∧ c.deck.flows = o.flowsAfter d.flows := by
  obtain ⟨f, hf, hdeck⟩ := exists_withSeeds hd
  cases o with
  | create request =>
    -- The dialog for new stations is at its start before and after.
    have hreset : d.flows.set .createStation {} = d.flows := by
      rw [hdeck]
      rfl
    have hcourse := course_creation now up d h
    rwa [hreset] at hcourse
  | delete id =>
    obtain rfl := Option.some.inj h
    rw [hdeck, course_delete]
    exact ⟨rfl, rfl⟩
  | rename id name =>
    obtain rfl := Option.some.inj h
    rw [hdeck, course_rename ho.1 ho.2]
    exact ⟨rfl, rfl⟩
  | seeds id =>
    obtain rfl := Option.some.inj h
    rw [hdeck, course_seeds]
    exact ⟨rfl, rfl⟩
  | unseed id =>
    obtain rfl := Option.some.inj h
    rw [hdeck]
    cases hf with
    | idle =>
      rw [course_unseed_idle]
      exact ⟨rfl, rfl⟩
    | reviewing station =>
      rw [course_unseed]
      exact ⟨rfl, rfl⟩
  | yes =>
    obtain rfl := Option.some.inj h
    rw [course_singleton]
    show d.acceptNewStation.command.toList = _ ∧ d.acceptNewStation.deck.flows = _
    rw [creationOnly_acceptNewStation]
    refine ⟨?_, rfl⟩
    -- with a prompt there is a station to change to, and without one nothing
    unfold acceptNewStation Order.commands
    cases d.newStation <;> rfl
  | stations | no | cancel | reconnect | status | help | quit => cases h
  | _ =>
    obtain rfl := Option.some.inj h
    rw [course_singleton]
    exact ⟨rfl, rfl⟩

end Deck

end Tuner
