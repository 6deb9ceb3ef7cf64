import Tuner.Event.Reader
import Tuner.Event.Writer
import Tuner.Proofs.Event.Fields

/-!
# Events that are written and read again

An event that is written is read back as it was, whatever it holds: the names and the order of the
fields, the nulls and the lists inside of lists are the same for the writer and for the lenient
reader. There is one lemma for each record, and `Event.ofPayload?_payload` puts them together.

Only quantities can get lost, since a double that is no finite number has no form in JSON.
`Event.IsFinite` excludes that, and `Event.isFinite_of_ofPayload?` shows that nothing else is ever
read from a payload. So an event that was read, from however odd a payload, is read back as well.
-/

namespace Tuner

open Json Payload

/-! ## Records without quantities -/

/-- Each record is written under the first names of its fields, in their order, and without a second
name. Then every field is read back. -/
theorem Station.ofJson?_toJson (s : Station) : Station.ofJson? s.toJson = some s := by
  have hwrites : Writes Station.fieldNames ["id", "name", "isQuickMix", "isQuickMixed"] := by decide
  rw [Station.ofJson?, Station.toJson, fields?_ofMembers hwrites rfl]
  simp [Station.fieldNames]

theorem Genre.ofJson?_toJson (g : Genre) : Genre.ofJson? g.toJson = some g := by
  have hwrites : Writes Genre.fieldNames ["id", "name"] := by decide
  rw [Genre.ofJson?, Genre.toJson, fields?_ofMembers hwrites rfl]
  simp [Genre.fieldNames]

theorem GenreCategory.ofJson?_toJson (c : GenreCategory) :
    GenreCategory.ofJson? c.toJson = some c := by
  have hwrites : Writes GenreCategory.fieldNames ["name", "genres"] := by decide
  have hgenres : list? Genre.ofJson? (.array (c.genres.map Genre.toJson)) = some c.genres :=
    list?_map fun g _ => g.ofJson?_toJson
  rw [GenreCategory.ofJson?, GenreCategory.toJson, fields?_ofMembers hwrites rfl]
  simp [GenreCategory.fieldNames, orDefault?_some rfl hgenres]

theorem ArtistMatch.ofJson?_toJson (a : ArtistMatch) : ArtistMatch.ofJson? a.toJson = some a := by
  have hwrites : Writes ArtistMatch.fieldNames ["id", "name"] := by decide
  rw [ArtistMatch.ofJson?, ArtistMatch.toJson, fields?_ofMembers hwrites rfl]
  simp [ArtistMatch.fieldNames]

theorem SongMatch.ofJson?_toJson (s : SongMatch) : SongMatch.ofJson? s.toJson = some s := by
  have hwrites : Writes SongMatch.fieldNames ["id", "title", "artist"] := by decide
  rw [SongMatch.ofJson?, SongMatch.toJson, fields?_ofMembers hwrites rfl]
  simp [SongMatch.fieldNames]

theorem SearchResults.ofJson?_toJson (r : SearchResults) :
    SearchResults.ofJson? r.toJson = some r := by
  have hwrites : Writes SearchResults.fieldNames ["artists", "songs"] := by decide
  have hartists : list? ArtistMatch.ofJson? (.array (r.artists.map ArtistMatch.toJson)) =
      some r.artists := list?_map fun a _ => a.ofJson?_toJson
  have hsongs : list? SongMatch.ofJson? (.array (r.songs.map SongMatch.toJson)) = some r.songs :=
    list?_map fun s _ => s.ofJson?_toJson
  rw [SearchResults.ofJson?, SearchResults.toJson, fields?_ofMembers hwrites rfl]
  simp [SearchResults.fieldNames, orDefault?_some rfl hartists, orDefault?_some rfl hsongs]

theorem UpcomingSong.ofJson?_toJson (s : UpcomingSong) :
    UpcomingSong.ofJson? s.toJson = some s := by
  have hwrites : Writes UpcomingSong.fieldNames ["title", "artist"] := by decide
  rw [UpcomingSong.ofJson?, UpcomingSong.toJson, fields?_ofMembers hwrites rfl]
  simp [UpcomingSong.fieldNames]

theorem Seed.ofJson?_toJson (s : Seed) : Seed.ofJson? s.toJson = some s := by
  have hwrites : Writes Seed.fieldNames ["id", "type", "name"] := by decide
  rw [Seed.ofJson?, Seed.toJson, fields?_ofMembers hwrites rfl]
  simp [Seed.fieldNames]

theorem StationInfo.ofJson?_toJson (i : StationInfo) : StationInfo.ofJson? i.toJson = some i := by
  have hwrites : Writes StationInfo.fieldNames ["stationId", "seeds"] := by decide
  have hseeds : list? Seed.ofJson? (.array (i.seeds.map Seed.toJson)) = some i.seeds :=
    list?_map fun s _ => s.ofJson?_toJson
  rw [StationInfo.ofJson?, StationInfo.toJson, fields?_ofMembers hwrites rfl]
  simp [StationInfo.fieldNames, orDefault?_some rfl hseeds]

/-! ## Records with quantities -/

/-- The quantities of a snapshot. -/
def Snapshot.quantities (s : Snapshot) : List Float :=
  (s.song.map (·.duration)).toList ++ s.elapsed.toList ++ s.volume.toList ++ s.maxGain.toList

/-- The fields of a song may share their object with others. -/
theorem Song.ofJson?_ofMembers {s : Song} {keys : List String} {rest : List (String × Json)}
    (hfinite : s.duration.isFinite = true) (hwrites : Writes Song.fieldNames keys)
    (hkeys : (s.members ++ rest).map (·.1) = keys) :
    Song.ofJson? (ofMembers (s.members ++ rest)) = some s := by
  have hrating : orDefault? 0 count? (some (ofInt s.rating.toNat)) = some s.rating :=
    orDefault?_some rfl (count?_ofInt s.rating)
  rw [Song.ofJson?, fields?_ofMembers hwrites hkeys]
  simp [Song.fieldNames, Song.members, Song.ofFields?, orDefault?_quantity hfinite, hrating]

/-- A song on its own is read back if its duration is a number. -/
theorem Song.ofJson?_toJson {s : Song} (hfinite : s.duration.isFinite = true) :
    Song.ofJson? s.toJson = some s := by
  have hwrites : Writes Song.fieldNames ["title", "artist", "album", "coverArt", "duration",
    "rating", "stationName", "trackToken"] := by decide
  rw [Song.toJson, ← List.append_nil s.members]
  exact Song.ofJson?_ofMembers hfinite hwrites rfl

/-- A track that starts is the fields of its song with two more behind them. -/
theorem TrackStart.ofJson?_toJson {s : TrackStart} (hfinite : s.song.duration.isFinite = true) :
    TrackStart.ofJson? s.toJson = some s := by
  have hwrites : Writes Song.fieldNames ["title", "artist", "album", "coverArt", "duration",
    "rating", "stationName", "trackToken", "stationId", "station"] := by decide
  -- the song does not mind the two fields behind its own
  have hsong : Song.ofJson? s.toJson = some s.song :=
    Song.ofJson?_ofMembers hfinite hwrites rfl
  have hstationId : ("stationId", ofOption (s.stationId.map .string)) ∈ s.song.members ++
      [("stationId", ofOption (s.stationId.map .string)),
        ("station", ofOption (s.station.map .string))] := by simp
  have hstation : ("station", ofOption (s.station.map .string)) ∈ s.song.members ++
      [("stationId", ofOption (s.stationId.map .string)),
        ("station", ofOption (s.station.map .string))] := by simp
  rw [TrackStart.toJson, ofMembers] at hsong ⊢
  rw [TrackStart.ofJson?, hsong, findMember?_sorted_of_mem hstationId hwrites.distinct,
    findMember?_sorted_of_mem hstation hwrites.distinct]
  simp

theorem Progress.ofJson?_toJson {p : Progress} (helapsed : p.elapsed.isFinite = true)
    (hduration : p.duration.isFinite = true) : Progress.ofJson? p.toJson = some p := by
  have hwrites : Writes Progress.fieldNames ["elapsed", "duration"] := by decide
  rw [Progress.ofJson?, Progress.toJson, fields?_ofMembers hwrites rfl]
  simp [Progress.fieldNames, orDefault?_quantity helapsed, orDefault?_quantity hduration]

/-- In a snapshot everything but the names of the fields may be absent. -/
theorem Snapshot.ofJson?_toJson {s : Snapshot} (hfinite : ∀ x ∈ s.quantities, x.isFinite = true) :
    Snapshot.ofJson? s.toJson = some s := by
  have hwrites : Writes Snapshot.fieldNames ["song", "playing", "elapsed", "station", "stationId",
    "volume", "maxGain"] := by decide
  simp only [Snapshot.quantities, List.forall_mem_append, Option.mem_toList] at hfinite
  obtain ⟨⟨⟨hdurations, helapsed⟩, hvolume⟩, hmaxGain⟩ := hfinite
  have hsong : optional? Song.ofJson? (some (ofOption (s.song.map Song.toJson))) = some s.song :=
    optional?_ofOption rfl fun song hmem =>
      Song.ofJson?_toJson (hdurations _ (Option.mem_map_of_mem _ hmem))
  rw [Snapshot.ofJson?, Snapshot.toJson, fields?_ofMembers hwrites rfl]
  simp [Snapshot.fieldNames, hsong, optional?_quantity helapsed, optional?_quantity hvolume,
    optional?_quantity hmaxGain]

/-! ## Quantities that are read -/

variable {v : Json}

/-- The duration of a song is the one quantity in it. -/
theorem Song.isFinite_of_ofJson? {s : Song} (hv : v.IsProper) (h : Song.ofJson? v = some s) :
    s.duration.isFinite = true := by
  obtain ⟨fields, hfields, hsong⟩ := Option.bind_eq_some_iff.mp h
  unfold Song.ofFields? at hsong
  split at hsong
  · simp only [Option.bind_eq_bind, Option.bind_eq_some_iff] at hsong
    obtain ⟨_, _, _, _, _, _, _, _, duration, hduration, _, _, _, _, _, _, ⟨⟩⟩ := hsong
    -- the other seven fields are texts and a count
    exact isFinite_of_orDefault? hfields hv (by simp) hduration
  · cases hsong

theorem TrackStart.isFinite_of_ofJson? {s : TrackStart} (hv : v.IsProper)
    (h : TrackStart.ofJson? v = some s) : s.song.duration.isFinite = true := by
  unfold TrackStart.ofJson? at h
  split at h
  · simp only [Option.bind_eq_bind, Option.bind_eq_some_iff] at h
    obtain ⟨song, hsong, _, _, _, _, ⟨⟩⟩ := h
    exact Song.isFinite_of_ofJson? hv hsong
  · cases h

theorem Progress.isFinite_of_ofJson? {p : Progress} (hv : v.IsProper)
    (h : Progress.ofJson? v = some p) :
    p.elapsed.isFinite = true ∧ p.duration.isFinite = true := by
  obtain ⟨fields, hfields, hprogress⟩ := Option.bind_eq_some_iff.mp h
  split at hprogress
  · simp only [Option.bind_eq_bind, Option.bind_eq_some_iff] at hprogress
    obtain ⟨elapsed, helapsed, duration, hduration, ⟨⟩⟩ := hprogress
    exact ⟨isFinite_of_orDefault? hfields hv (by simp) helapsed,
      isFinite_of_orDefault? hfields hv (by simp) hduration⟩
  · cases hprogress

/-- A snapshot has three quantities and those of its song, each of them optional. -/
theorem Snapshot.isFinite_of_ofJson? {s : Snapshot} (hv : v.IsProper)
    (h : Snapshot.ofJson? v = some s) : ∀ x ∈ s.quantities, x.isFinite = true := by
  obtain ⟨fields, hfields, hsnapshot⟩ := Option.bind_eq_some_iff.mp h
  split at hsnapshot
  · simp only [Option.bind_eq_bind, Option.bind_eq_some_iff] at hsnapshot
    obtain ⟨song, hsong, _, _, elapsed, helapsed, _, _, _, _, volume, hvolume, maxGain, hmaxGain,
      ⟨⟩⟩ := hsnapshot
    simp only [Snapshot.quantities, List.forall_mem_append, Option.mem_toList]
    refine ⟨⟨⟨?_, ?_⟩, ?_⟩, ?_⟩
    · intro x hx
      -- a song is read from a value of the record, which is as proper as the record
      obtain ⟨s, hs, rfl⟩ := Option.map_eq_some_iff.mp hx
      obtain ⟨w, rfl, hread⟩ := exists_of_optional? hsong s hs
      exact Song.isFinite_of_ofJson? (isProper_of_fields? hfields hv (by simp)) hread
    · exact isFinite_of_optional? hfields hv (by simp) helapsed
    · exact isFinite_of_optional? hfields hv (by simp) hvolume
    · exact isFinite_of_optional? hfields hv (by simp) hmaxGain
  · cases hsnapshot

/-! ## Events -/

namespace Event

/-- The quantities of an event. -/
def quantities : Event → List Float
  | .start s => [s.song.duration]
  | .progress p => [p.elapsed, p.duration]
  | .process s => s.quantities
  | _ => []

/-- All quantities of an event are finite. -/
def IsFinite (e : Event) : Prop :=
  ∀ x ∈ e.quantities, x.isFinite = true

/-- What a reader takes is no null, so it is not taken for an empty payload. -/
theorem orEmpty?_some {α : Type} {empty a : α} {read : Json → Option α}
    (hnull : read .null = none) (h : read v = some a) : orEmpty? empty read v = some a :=
  orDefault?_some hnull h

/-- **A payload that was written gives its event back.** -/
theorem ofPayload?_payload {e : Event} (h : e.IsFinite) : ofPayload? e.payload e.kind = some e := by
  cases e with
  | start s =>
    have hstart : TrackStart.ofJson? s.toJson = some s :=
      TrackStart.ofJson?_toJson (h s.song.duration (by simp [quantities]))
    rw [payload, kind, ofPayload?, orEmpty?_some rfl hstart, Option.map_some]
  | stop => rfl
  | progress p =>
    have hprogress : Progress.ofJson? p.toJson = some p :=
      Progress.ofJson?_toJson (h p.elapsed (by simp [quantities]))
        (h p.duration (by simp [quantities]))
    rw [payload, kind, ofPayload?, orEmpty?_some rfl hprogress, Option.map_some]
  | stations list =>
    have hlist : list? Station.ofJson? (.array (list.map Station.toJson)) = some list :=
      list?_map fun s _ => s.ofJson?_toJson
    rw [payload, kind, ofPayload?, orEmpty?_some rfl hlist, Option.map_some]
  | process s =>
    rw [payload, kind, ofPayload?, orEmpty?_some rfl (Snapshot.ofJson?_toJson h), Option.map_some]
  | genres list =>
    have hlist : list? GenreCategory.ofJson? (.array (list.map GenreCategory.toJson)) =
        some list := list?_map fun c _ => c.ofJson?_toJson
    rw [payload, kind, ofPayload?, orEmpty?_some rfl hlist, Option.map_some]
  | searchResults r =>
    rw [payload, kind, ofPayload?, orEmpty?_some rfl r.ofJson?_toJson, Option.map_some]
  | songExplanation text => rfl
  | upcomingResult songs =>
    have hsongs : list? UpcomingSong.ofJson? (.array (songs.map UpcomingSong.toJson)) =
        some songs := list?_map fun s _ => s.ofJson?_toJson
    rw [payload, kind, ofPayload?, orEmpty?_some rfl hsongs, Option.map_some]
  | stationInfo info =>
    rw [payload, kind, ofPayload?, orEmpty?_some rfl info.ofJson?_toJson, Option.map_some]

/-- The name that is written leads back to the kind of the event. -/
theorem ofEnvelope_toEnvelope {e : Event} (h : e.IsFinite) :
    ofEnvelope e.toEnvelope = .ok (some e) := by
  simp only [ofEnvelope, toEnvelope, EventKind.ofName?_name, ofPayload?_payload h]

/-- **Quantities that are read from a payload are finite.** -/
theorem isFinite_of_ofPayload? {kind : EventKind} {e : Event} (hv : v.IsProper)
    (h : ofPayload? v kind = some e) : e.IsFinite := by
  cases kind with
  | start =>
    obtain ⟨s, hread, rfl⟩ := Option.map_eq_some_iff.mp h
    intro x hx
    obtain rfl := List.mem_singleton.mp hx
    -- a payload of null has zeros
    rcases orDefault?_cases hread with rfl | ⟨w, ⟨⟩, hread⟩
    · rfl
    · exact TrackStart.isFinite_of_ofJson? hv hread
  | progress =>
    obtain ⟨p, hread, rfl⟩ := Option.map_eq_some_iff.mp h
    have hfinite : p.elapsed.isFinite = true ∧ p.duration.isFinite = true := by
      rcases orDefault?_cases hread with rfl | ⟨w, ⟨⟩, hread⟩
      · exact ⟨rfl, rfl⟩
      · exact Progress.isFinite_of_ofJson? hv hread
    intro x hx
    rcases List.mem_pair.mp hx with rfl | rfl
    · exact hfinite.1
    · exact hfinite.2
  | process =>
    obtain ⟨s, hread, rfl⟩ := Option.map_eq_some_iff.mp h
    rcases orDefault?_cases hread with rfl | ⟨w, ⟨⟩, hread⟩
    · rintro x ⟨⟩
    · exact Snapshot.isFinite_of_ofJson? hv hread
  | stop =>
    obtain rfl := Option.some.inj h
    rintro x ⟨⟩
  | _ =>
    -- The other kinds of event have no quantities.
    obtain ⟨_, _, rfl⟩ := Option.map_eq_some_iff.mp h
    rintro x ⟨⟩

/-- An envelope with an event has a payload that was read as some kind. -/
theorem exists_of_ofEnvelope {envelope : Envelope} {e : Event}
    (h : ofEnvelope envelope = .ok (some e)) :
    ∃ kind, ofPayload? envelope.payload kind = some e := by
  unfold ofEnvelope at h
  split at h
  · cases h
  · next kind _ =>
    split at h
    · next hpayload =>
      cases h
      exact ⟨kind, hpayload⟩
    · cases h

/-- **Events survive their serialization.** An event whose quantities are finite is written as an
envelope that carries exactly this event. Whatever envelope carries an event, with any numbers that
a value can hold, the event written again is an envelope that carries the same event. -/
theorem events_survive :
    (∀ e : Event, e.IsFinite → ofEnvelope e.toEnvelope = .ok (some e)) ∧
      ∀ (envelope : Envelope) (e : Event), envelope.payload.IsProper →
        ofEnvelope envelope = .ok (some e) → ofEnvelope e.toEnvelope = .ok (some e) := by
  refine ⟨fun e h => ofEnvelope_toEnvelope h, fun envelope e hproper h => ?_⟩
  obtain ⟨kind, hpayload⟩ := exists_of_ofEnvelope h
  exact ofEnvelope_toEnvelope (isFinite_of_ofPayload? hproper hpayload)

/-- A snapshot with a song, and a list of stations whose identifiers are no texts. -/
theorem events_survive_numbered :
    let e : Event :=
      .process { song := some { title := "Song", duration := 3.5 }, volume := some 6 }
    let envelope : Envelope := ⟨"stations", .array [.object [("id", .number (.integer 7))],
      .array [.number (.double 0.5), .null, .bool true]]⟩
    let list : List Station := [{ id := "7" }, { id := "0.5", isQuickMix := true }]
    e.IsFinite ∧ ofEnvelope e.toEnvelope = .ok (some e) ∧
      envelope.payload.IsProper ∧ ofEnvelope envelope = .ok (some (.stations list)) ∧
      ofEnvelope (Event.stations list).toEnvelope = .ok (some (.stations list)) := by
  intro e envelope list
  have hfinite : e.IsFinite := by
    simp only [e, IsFinite, quantities, Snapshot.quantities]
    decide +kernel
  have hproper : envelope.payload.IsProper := by
    intro n hn
    have hn : n = .integer 7 ∨ n = .double 0.5 := by
      simpa [envelope, numbers, itemNumbers, memberNumbers] using hn
    rcases hn with rfl | rfl
    · exact ⟨⟨by decide, by decide⟩, by rintro x ⟨⟩⟩
    · refine ⟨trivial, ?_⟩
      rintro x ⟨⟩
      decide +kernel
  have hread : ofEnvelope envelope = .ok (some (.stations list)) := by
    rfl
  exact ⟨hfinite, events_survive.1 e hfinite, hproper, hread, events_survive.2 _ _ hproper hread⟩

end Event

end Tuner
