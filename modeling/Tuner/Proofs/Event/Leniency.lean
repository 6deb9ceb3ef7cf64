import Tuner.Event.Reader
import Tuner.Proofs.Event.Schema

/-!
# Lenient payloads

What a player leaves out, sends as null, adds, or calls by a second name makes no difference to the
event. There is one lemma for each record: a change of its object, or of a record further in, does
not change what is read (`Respects`). The readers of single fields pass that on, `Song.ofFields?`
does so for a song both on its own and inside the report of a track that starts, and
`Event.tidying_unnoticed` says it of all payloads and of any number of changes.
-/

namespace Tuner

open Payload

namespace Schema

variable {α : Type} {schema elem : Schema} {fields : Fields} {names : List (List String)}
variable {read : Json → Option α} {o o' : Option Json} {v w : Json}

/-- No change of a value makes a difference to a reader. -/
def Respects (schema : Schema) (read : Json → Option α) : Prop :=
  ∀ v w, schema.Unambiguous v → schema.Tidies v w → read v = read w

/-! ## Readers of fields -/

theorem respects_plain (read : Json → Option α) : Respects .plain read := by
  intro v w _ h
  cases h

/-- What is tidied is a record or a list, before and after. -/
theorem Tidies.ne_null (h : schema.Tidies v w) : v ≠ .null ∧ w ≠ .null := by
  cases h <;> simp

/-- A field that is there and not null is for its reader. -/
theorem orDefault?_of_ne_null {default : α} (h : v ≠ .null) :
    orDefault? default read (some v) = read v := by
  unfold orDefault?
  split <;> simp_all

theorem optional?_of_ne_null (h : v ≠ .null) : optional? read (some v) = (read v).map some := by
  unfold optional?
  split <;> simp_all

/-- A null and an absent field both give the default, and anything else is for the reader. -/
theorem orDefault?_alike (default : α) (hread : schema.Respects read) (h : schema.Alike o o') :
    orDefault? default read o = orDefault? default read o' := by
  cases h with
  | same o => rfl
  | gone => rfl
  | tidied hv h =>
    rw [orDefault?_of_ne_null h.ne_null.1, orDefault?_of_ne_null h.ne_null.2, hread _ _ hv h]

theorem optional?_alike (hread : schema.Respects read) (h : schema.Alike o o') :
    optional? read o = optional? read o' := by
  cases h with
  | same o => rfl
  | gone => rfl
  | tidied hv h =>
    rw [optional?_of_ne_null h.ne_null.1, optional?_of_ne_null h.ne_null.2, hread _ _ hv h]

/-- A field that must be there fails alike if it is null and if it is absent. -/
theorem required?_alike (hnull : read .null = none) (hread : schema.Respects read)
    (h : schema.Alike o o') : required? read o = required? read o' := by
  cases h with
  | same o => rfl
  | gone => exact hnull
  | tidied hv h => exact hread _ _ hv h

/-! A plain field is either the same or has lost a null, so nothing is asked of its reader. -/

theorem orDefault?_plain (default : α) (read : Json → Option α) (h : Alike .plain o o') :
    orDefault? default read o = orDefault? default read o' :=
  orDefault?_alike default (respects_plain read) h

theorem optional?_plain (read : Json → Option α) (h : Alike .plain o o') :
    optional? read o = optional? read o' :=
  optional?_alike (respects_plain read) h

theorem required?_ident?_plain (h : Alike .plain o o') :
    required? ident? o = required? ident? o' :=
  required?_alike rfl (respects_plain ident?) h

/-- An item that reads like the one it replaces makes no difference to the list. Induction on the
list, to the place of the item. -/
theorem mapM_set {items : List Json} {i : Nat} (hget : items[i]? = some v)
    (hread : read v = read w) : (items.set i w).mapM read = items.mapM read := by
  induction items generalizing i with
  | nil => rfl
  | cons u rest ih =>
    cases i with
    | zero =>
      obtain rfl : u = v := by simpa using hget
      simp [List.mapM_cons, hread]
    | succ i =>
      have hrest : rest[i]? = some v := by simpa using hget
      simp [List.mapM_cons, ih hrest]

/-- What no change of an item is noticed by is not noticed by a list of them either. -/
theorem respects_list (hread : elem.Respects read) : (Schema.list elem).Respects (list? read) := by
  intro v w hv h
  cases h with
  | item hget h =>
    have hsame := hread _ _ (hv.item (List.mem_of_getElem? hget)) h
    exact (mapM_set hget hsame).symm

/-! ## Readers of records -/

/-- Only objects are changed as records; an array of fields has no keys to leave out. -/
theorem Tidies.exists_members (h : (Schema.record fields).Tidies v w) :
    ∃ members members', v = .object members ∧ w = .object members' := by
  cases h <;> exact ⟨_, _, rfl, rfl⟩

/-- If no field has two names, all of them are read, whatever name each goes by. -/
theorem fields?_eq_given {members : List (String × Json)} {part : Fields} (hpart : part ⊆ fields)
    (hdistinct : (Schema.record fields).Distinct)
    (hv : (Schema.record fields).Unambiguous (.object members)) :
    fields? (part.map (·.1)) (.object members) = some (part.map fun f => given f.1 members) := by
  refine mapM_eq_some_iff.mpr (List.forall₂_map_left_iff.mpr (List.forall₂_map_right_iff.mpr ?_))
  -- each field has one value, since it is given under one name at most
  exact List.forall₂_same.mpr fun f hf =>
    value?_eq_given (hdistinct.nodup (hpart hf)) (hv.single (hpart hf))

/-- Some fields of a record before and after a change. -/
theorem part_tidied {part : Fields} (hpart : part ⊆ fields)
    (hdistinct : (Schema.record fields).Distinct) (hv : (Schema.record fields).Unambiguous v)
    (h : (Schema.record fields).Tidies v w) :
    ∃ values : List (Option Json × Option Json),
      fields? (part.map (·.1)) v = some (values.map (·.1)) ∧
        fields? (part.map (·.1)) w = some (values.map (·.2)) ∧
        List.Forall₂ (fun f o => Alike f.2 o.1 o.2) part values := by
  -- the change may not bring in a second name, or the fields could not be read afterwards
  have hw := h.unambiguous hdistinct hv
  obtain ⟨members, members', rfl, rfl⟩ := h.exists_members
  refine ⟨part.map fun f => (given f.1 members, given f.1 members'), ?_, ?_, ?_⟩
  · rw [fields?_eq_given hpart hdistinct hv, List.map_map]
    rfl
  · rw [fields?_eq_given hpart hdistinct hw, List.map_map]
    rfl
  · refine List.forall₂_map_right_iff.mpr (List.forall₂_same.mpr fun f hf => ?_)
    exact alike_given hdistinct hv h (hpart hf)

/-- The fields of a record before and after a change. -/
theorem fields?_tidied (names : List (List String)) (hnames : fields.map (·.1) = names)
    (hdistinct : (Schema.record fields).Distinct) (hv : (Schema.record fields).Unambiguous v)
    (h : (Schema.record fields).Tidies v w) :
    ∃ values : List (Option Json × Option Json),
      fields? names v = some (values.map (·.1)) ∧ fields? names w = some (values.map (·.2)) ∧
        List.Forall₂ (fun f o => Alike f.2 o.1 o.2) fields values := by
  subst hnames
  exact part_tidied (List.Subset.refl _) hdistinct hv h

/-- Some fields of a record without records in it. -/
theorem part_flat {part : List (List String)} (hpart : part ⊆ names)
    (hdistinct : names.flatten.Nodup) (hv : (flat names).Unambiguous v)
    (h : (flat names).Tidies v w) :
    ∃ values : List (Option Json × Option Json),
      fields? part v = some (values.map (·.1)) ∧ fields? part w = some (values.map (·.2)) ∧
        List.Forall₂ (fun _ o => Alike .plain o.1 o.2) part values := by
  have hnames : (part.map (·, Schema.plain)).map (·.1) = part := by
    rw [List.map_map]
    exact List.map_id part
  obtain ⟨values, hread, hread', hvalues⟩ :=
    part_tidied (List.map_subset (·, Schema.plain) hpart) (distinct_flat hdistinct) hv h
  rw [hnames] at hread hread'
  exact ⟨values, hread, hread', List.forall₂_map_left_iff.mp hvalues⟩

end Schema

open Schema

/-! ## Records of plain fields -/

def Song.schema : Schema := .flat Song.fieldNames

def Progress.schema : Schema := .flat Progress.fieldNames

def Station.schema : Schema := .flat Station.fieldNames

def Genre.schema : Schema := .flat Genre.fieldNames

def ArtistMatch.schema : Schema := .flat ArtistMatch.fieldNames

def SongMatch.schema : Schema := .flat SongMatch.fieldNames

def UpcomingSong.schema : Schema := .flat UpcomingSong.fieldNames

def Seed.schema : Schema := .flat Seed.fieldNames

/-- A song is read alike from the fields of a song and of a track that starts. -/
theorem Song.ofFields?_alike {values : List (Option Json × Option Json)}
    (h : List.Forall₂ (fun _ o => Alike .plain o.1 o.2) Song.fieldNames values) :
    Song.ofFields? (values.map (·.1)) = Song.ofFields? (values.map (·.2)) := by
  rcases h with - | ⟨htitle, - | ⟨hartist, - | ⟨halbum, - | ⟨hcoverArt, - | ⟨hduration,
    - | ⟨hrating, - | ⟨hstationName, - | ⟨htrackToken, - | -⟩⟩⟩⟩⟩⟩⟩⟩
  -- each of the eight fields is the same or has lost a null
  simp only [Song.ofFields?, List.map]
  rw [orDefault?_plain _ text? htitle,
    orDefault?_plain _ text? hartist,
    orDefault?_plain _ text? halbum,
    orDefault?_plain _ text? hcoverArt,
    orDefault?_plain _ quantity? hduration,
    orDefault?_plain _ count? hrating,
    orDefault?_plain _ text? hstationName,
    orDefault?_plain _ text? htrackToken]

theorem Song.respects : Song.schema.Respects Song.ofJson? := by
  intro v w hv h
  obtain ⟨values, hread, hread', hvalues⟩ := part_flat (List.Subset.refl _) (by decide) hv h
  rw [Song.ofJson?, Song.ofJson?, hread, hread']
  exact Song.ofFields?_alike hvalues

theorem Progress.respects : Progress.schema.Respects Progress.ofJson? := by
  intro v w hv h
  obtain ⟨values, hread, hread', hvalues⟩ := part_flat (List.Subset.refl _) (by decide) hv h
  rcases hvalues with - | ⟨helapsed, - | ⟨hduration, - | -⟩⟩
  rw [Progress.ofJson?, Progress.ofJson?, hread, hread']
  simp only [List.map, Option.bind_eq_bind, Option.bind_some]
  rw [orDefault?_plain _ quantity? helapsed,
    orDefault?_plain _ quantity? hduration]

theorem Station.respects : Station.schema.Respects Station.ofJson? := by
  intro v w hv h
  obtain ⟨values, hread, hread', hvalues⟩ := part_flat (List.Subset.refl _) (by decide) hv h
  rcases hvalues with - | ⟨hid, - | ⟨hname, - | ⟨hmix, - | ⟨hmixed, - | -⟩⟩⟩⟩
  rw [Station.ofJson?, Station.ofJson?, hread, hread']
  simp only [List.map, Option.bind_eq_bind, Option.bind_some]
  rw [required?_ident?_plain hid,
    orDefault?_plain _ text? hname,
    orDefault?_plain _ flag? hmix,
    orDefault?_plain _ flag? hmixed]

theorem Genre.respects : Genre.schema.Respects Genre.ofJson? := by
  intro v w hv h
  obtain ⟨values, hread, hread', hvalues⟩ := part_flat (List.Subset.refl _) (by decide) hv h
  rcases hvalues with - | ⟨hid, - | ⟨hname, - | -⟩⟩
  rw [Genre.ofJson?, Genre.ofJson?, hread, hread']
  simp only [List.map, Option.bind_eq_bind, Option.bind_some]
  rw [required?_ident?_plain hid,
    orDefault?_plain _ text? hname]

theorem ArtistMatch.respects : ArtistMatch.schema.Respects ArtistMatch.ofJson? := by
  intro v w hv h
  obtain ⟨values, hread, hread', hvalues⟩ := part_flat (List.Subset.refl _) (by decide) hv h
  rcases hvalues with - | ⟨hid, - | ⟨hname, - | -⟩⟩
  rw [ArtistMatch.ofJson?, ArtistMatch.ofJson?, hread, hread']
  simp only [List.map, Option.bind_eq_bind, Option.bind_some]
  rw [required?_ident?_plain hid,
    orDefault?_plain _ text? hname]

theorem SongMatch.respects : SongMatch.schema.Respects SongMatch.ofJson? := by
  intro v w hv h
  obtain ⟨values, hread, hread', hvalues⟩ := part_flat (List.Subset.refl _) (by decide) hv h
  rcases hvalues with - | ⟨hid, - | ⟨htitle, - | ⟨hartist, - | -⟩⟩⟩
  rw [SongMatch.ofJson?, SongMatch.ofJson?, hread, hread']
  simp only [List.map, Option.bind_eq_bind, Option.bind_some]
  rw [required?_ident?_plain hid,
    orDefault?_plain _ text? htitle,
    orDefault?_plain _ text? hartist]

theorem UpcomingSong.respects : UpcomingSong.schema.Respects UpcomingSong.ofJson? := by
  intro v w hv h
  obtain ⟨values, hread, hread', hvalues⟩ := part_flat (List.Subset.refl _) (by decide) hv h
  rcases hvalues with - | ⟨htitle, - | ⟨hartist, - | -⟩⟩
  rw [UpcomingSong.ofJson?, UpcomingSong.ofJson?, hread, hread']
  simp only [List.map, Option.bind_eq_bind, Option.bind_some]
  rw [orDefault?_plain _ text? htitle,
    orDefault?_plain _ text? hartist]

theorem Seed.respects : Seed.schema.Respects Seed.ofJson? := by
  intro v w hv h
  obtain ⟨values, hread, hread', hvalues⟩ := part_flat (List.Subset.refl _) (by decide) hv h
  rcases hvalues with - | ⟨hid, - | ⟨hkind, - | ⟨hname, - | -⟩⟩⟩
  rw [Seed.ofJson?, Seed.ofJson?, hread, hread']
  simp only [List.map, Option.bind_eq_bind, Option.bind_some]
  rw [required?_ident?_plain hid,
    orDefault?_plain _ text? hkind,
    orDefault?_plain _ text? hname]

/-! ## Records with records in them -/

/-- The song is not a record of its own here. Its fields stand beside those of the station. -/
def TrackStart.schema : Schema := .flat (Song.fieldNames ++ [["stationId"], ["station"]])

def Snapshot.schema : Schema :=
  .record ((["song"], Song.schema) :: (Snapshot.fieldNames.drop 1).map (·, .plain))

def GenreCategory.schema : Schema :=
  .record [(["name"], .plain), (["genres"], .list Genre.schema)]

def SearchResults.schema : Schema :=
  .record [(["artists"], .list ArtistMatch.schema), (["songs"], .list SongMatch.schema)]

def StationInfo.schema : Schema :=
  .record [(["stationId"], .plain), (["seeds"], .list Seed.schema)]

theorem Song.distinct : Song.schema.Distinct := distinct_flat (by decide)

theorem TrackStart.distinct : TrackStart.schema.Distinct := distinct_flat (by decide)

/-- The fields of the song are a record of their own, so they may share names with the snapshot. -/
theorem Snapshot.distinct : Snapshot.schema.Distinct := by
  refine .record (by decide) fun f hf => ?_
  rcases List.mem_cons.mp hf with rfl | hf
  · -- the song is the only record inside
    exact Song.distinct
  · obtain ⟨names, -, rfl⟩ := List.mem_map.mp hf
    exact .plain

theorem GenreCategory.distinct : GenreCategory.schema.Distinct := by
  refine .record (by decide) fun f hf => ?_
  rcases List.mem_pair.mp hf with rfl | rfl
  · exact .plain
  · exact .list (distinct_flat (by decide))

theorem SearchResults.distinct : SearchResults.schema.Distinct := by
  refine .record (by decide) fun f hf => ?_
  rcases List.mem_pair.mp hf with rfl | rfl
  · exact .list (distinct_flat (by decide))
  · exact .list (distinct_flat (by decide))

theorem StationInfo.distinct : StationInfo.schema.Distinct := by
  refine .record (by decide) fun f hf => ?_
  rcases List.mem_pair.mp hf with rfl | rfl
  · exact .plain
  · exact .list (distinct_flat (by decide))

/-- A track that starts is one object, and the song is read from some of its fields. -/
theorem TrackStart.respects : TrackStart.schema.Respects TrackStart.ofJson? := by
  intro v w hv h
  have hdistinct : (Song.fieldNames ++ [["stationId"], ["station"]]).flatten.Nodup := by decide
  obtain ⟨values, hread, hread', hvalues⟩ :=
    part_flat (List.subset_append_left Song.fieldNames _) hdistinct hv h
  -- the song sees eight of the ten fields
  have hsong : Song.ofJson? v = Song.ofJson? w := by
    rw [Song.ofJson?, Song.ofJson?, hread, hread']
    exact Song.ofFields?_alike hvalues
  obtain ⟨members, members', rfl, rfl⟩ := h.exists_members
  have hstationId : Alike .plain (findMember? "stationId" members)
      (findMember? "stationId" members') := by
    have hgiven := alike_given TrackStart.distinct hv h
      (List.mem_map_of_mem (a := ["stationId"]) (by decide))
    simpa only [given_singleton] using hgiven
  have hstation : Alike .plain (findMember? "station" members)
      (findMember? "station" members') := by
    have hgiven := alike_given TrackStart.distinct hv h
      (List.mem_map_of_mem (a := ["station"]) (by decide))
    simpa only [given_singleton] using hgiven
  simp only [TrackStart.ofJson?, hsong]
  rw [optional?_plain ident? hstationId, optional?_plain text? hstation]

theorem Snapshot.respects : Snapshot.schema.Respects Snapshot.ofJson? := by
  intro v w hv h
  obtain ⟨values, hread, hread', hvalues⟩ :=
    fields?_tidied Snapshot.fieldNames rfl Snapshot.distinct hv h
  rcases hvalues with - | ⟨hsong, - | ⟨hplaying, - | ⟨helapsed, - | ⟨hstation, - | ⟨hstationId,
    - | ⟨hvolume, - | ⟨hmaxGain, - | -⟩⟩⟩⟩⟩⟩⟩
  rw [Snapshot.ofJson?, Snapshot.ofJson?, hread, hread']
  simp only [List.map, Option.bind_eq_bind, Option.bind_some]
  rw [optional?_alike Song.respects hsong, optional?_plain flag? hplaying,
    optional?_plain quantity? helapsed, optional?_plain text? hstation,
    optional?_plain ident? hstationId, optional?_plain quantity? hvolume,
    optional?_plain quantity? hmaxGain]

theorem GenreCategory.respects : GenreCategory.schema.Respects GenreCategory.ofJson? := by
  intro v w hv h
  obtain ⟨values, hread, hread', hvalues⟩ :=
    fields?_tidied GenreCategory.fieldNames rfl GenreCategory.distinct hv h
  rcases hvalues with - | ⟨hname, - | ⟨hgenres, - | -⟩⟩
  rw [GenreCategory.ofJson?, GenreCategory.ofJson?, hread, hread']
  simp only [List.map, Option.bind_eq_bind, Option.bind_some]
  rw [orDefault?_plain _ text? hname, orDefault?_alike _ (respects_list Genre.respects) hgenres]

theorem SearchResults.respects : SearchResults.schema.Respects SearchResults.ofJson? := by
  intro v w hv h
  obtain ⟨values, hread, hread', hvalues⟩ :=
    fields?_tidied SearchResults.fieldNames rfl SearchResults.distinct hv h
  rcases hvalues with - | ⟨hartists, - | ⟨hsongs, - | -⟩⟩
  rw [SearchResults.ofJson?, SearchResults.ofJson?, hread, hread']
  simp only [List.map, Option.bind_eq_bind, Option.bind_some]
  rw [orDefault?_alike _ (respects_list ArtistMatch.respects) hartists,
    orDefault?_alike _ (respects_list SongMatch.respects) hsongs]

theorem StationInfo.respects : StationInfo.schema.Respects StationInfo.ofJson? := by
  intro v w hv h
  obtain ⟨values, hread, hread', hvalues⟩ :=
    fields?_tidied StationInfo.fieldNames rfl StationInfo.distinct hv h
  rcases hvalues with - | ⟨hstationId, - | ⟨hseeds, - | -⟩⟩
  rw [StationInfo.ofJson?, StationInfo.ofJson?, hread, hread']
  simp only [List.map, Option.bind_eq_bind, Option.bind_some]
  rw [optional?_plain ident? hstationId, orDefault?_alike _ (respects_list Seed.respects) hseeds]

/-! ## Events -/

/-- The records that the payload of an event is made of. Nothing in the payload of a stop is read,
and an explanation is a text. -/
def EventKind.schema : EventKind → Schema
  | start => TrackStart.schema
  | stop => .record []
  | progress => Progress.schema
  | stations => .list Station.schema
  | process => Snapshot.schema
  | genres => .list GenreCategory.schema
  | searchResults => SearchResults.schema
  | songExplanation => .plain
  | upcomingResult => .list UpcomingSong.schema
  | stationInfo => StationInfo.schema

/-- No payload, and no record in one, has two fields of one name. -/
theorem EventKind.distinct (kind : EventKind) : kind.schema.Distinct := by
  cases kind with
  | start => exact TrackStart.distinct
  | stop => exact .record List.nodup_nil (by simp)
  | progress => exact distinct_flat (by decide)
  | stations => exact .list (distinct_flat (by decide))
  | process => exact Snapshot.distinct
  | genres => exact .list GenreCategory.distinct
  | searchResults => exact SearchResults.distinct
  | songExplanation => exact .plain
  | upcomingResult => exact .list (distinct_flat (by decide))
  | stationInfo => exact StationInfo.distinct

namespace Event

variable {kind : EventKind} {v w : Json}

/-- What is tidied is not null, so it is not taken for an empty payload. -/
theorem orEmpty?_respects {α : Type} {schema : Schema} {read : Json → Option α} (empty : α)
    (hread : schema.Respects read) : schema.Respects (orEmpty? empty read) :=
  fun _ _ hv h => orDefault?_alike empty hread (.tidied hv h)

/-- **One change makes no difference to the event of a payload.** -/
theorem ofPayload?_tidied (hv : kind.schema.Unambiguous v) (h : kind.schema.Tidies v w) :
    ofPayload? v kind = ofPayload? w kind := by
  have hmap : ∀ {α : Type} {read : Json → Option α} (empty : α) (wrap : α → Event),
      kind.schema.Respects read →
        (orEmpty? empty read v).map wrap = (orEmpty? empty read w).map wrap :=
    fun empty wrap hread => congrArg (Option.map wrap) (orEmpty?_respects empty hread v w hv h)
  cases kind with
  | start => exact hmap {} .start TrackStart.respects
  | stop => rfl
  | progress => exact hmap {} .progress Progress.respects
  | stations => exact hmap [] .stations (respects_list Station.respects)
  | process => exact hmap {} .process Snapshot.respects
  | genres => exact hmap [] .genres (respects_list GenreCategory.respects)
  | searchResults => exact hmap {} .searchResults SearchResults.respects
  | songExplanation => cases h
  | upcomingResult => exact hmap [] .upcomingResult (respects_list UpcomingSong.respects)
  | stationInfo => exact hmap {} .stationInfo StationInfo.respects

/-- What a chain of changes leads to is unambiguous and has the same event. -/
theorem ofPayload?_chain (hv : kind.schema.Unambiguous v)
    (h : Relation.ReflTransGen kind.schema.Tidies v w) :
    kind.schema.Unambiguous w ∧ ofPayload? v kind = ofPayload? w kind := by
  induction h with
  | refl => exact ⟨hv, rfl⟩
  | tail _ hstep ih =>
    obtain ⟨hmiddle, hsame⟩ := ih
    exact ⟨hstep.unambiguous kind.distinct hmiddle,
      hsame.trans (ofPayload?_tidied hmiddle hstep)⟩

/-- An envelope with the name of a kind is read as that kind, and a payload that does not fit is the
fault of this kind. -/
theorem ofEnvelope_name (kind : EventKind) (v : Json) :
    ofEnvelope ⟨kind.name, v⟩ =
      match ofPayload? v kind with
      | some event => .ok (some event)
      | none => .error (fault kind) := by
  cases h : ofPayload? v kind <;> simp [ofEnvelope, EventKind.ofName?_name, h]

/-- A payload of null counts as an empty one, but an explanation has no empty form. -/
theorem ofPayload?_null (hkind : kind ≠ .songExplanation) :
    ∃ event, ofPayload? .null kind = some event ∧
      ofPayload? kind.schema.empty kind = some event := by
  cases kind with
  | songExplanation => exact absurd rfl hkind
  | start => exact ⟨.start {}, rfl, rfl⟩
  | stop => exact ⟨.stop, rfl, rfl⟩
  | progress => exact ⟨.progress {}, rfl, rfl⟩
  | stations => exact ⟨.stations [], rfl, rfl⟩
  | process => exact ⟨.process {}, rfl, rfl⟩
  | genres => exact ⟨.genres [], rfl, rfl⟩
  | searchResults => exact ⟨.searchResults {}, rfl, rfl⟩
  | upcomingResult => exact ⟨.upcomingResult [], rfl, rfl⟩
  | stationInfo => exact ⟨.stationInfo {}, rfl, rfl⟩

/-- **What says nothing goes unnoticed.** Unknown keys and nulls can be left out of a payload and
second names replaced, as often as one likes and at any depth: the envelope has the same event, or
is at fault as before. A payload of null gives the event of the empty object or list. -/
theorem tidying_unnoticed (kind : EventKind) (hkind : kind ≠ .songExplanation) :
    (∀ v w, kind.schema.Unambiguous v → Relation.ReflTransGen kind.schema.Tidies v w →
      ofEnvelope ⟨kind.name, v⟩ = ofEnvelope ⟨kind.name, w⟩) ∧
    ∃ event, ofEnvelope ⟨kind.name, .null⟩ = .ok (some event) ∧
      ofEnvelope ⟨kind.name, kind.schema.empty⟩ = .ok (some event) := by
  refine ⟨fun v w hv h => ?_, ?_⟩
  · rw [ofEnvelope_name, ofEnvelope_name, (ofPayload?_chain hv h).2]
  · obtain ⟨event, hnull, hempty⟩ := ofPayload?_null hkind
    exact ⟨event, by rw [ofEnvelope_name, hnull], by rw [ofEnvelope_name, hempty]⟩

/-- The report of a search that found one song. -/
def foundSong (members : List (String × Json)) : Json :=
  .object [("songs", .array [.object members])]

/-- The report is unambiguous if its song is, since the lists have one name each. -/
theorem foundSong_unambiguous {members : List (String × Json)}
    (h : ∀ names ∈ SongMatch.fieldNames, Single names members) :
    SearchResults.schema.Unambiguous (foundSong members) := by
  intro fields members' hholds
  cases hholds with
  | here =>
    intro f hf
    rcases List.mem_pair.mp hf with rfl | rfl <;> simp [Single]
  | field hf hkey hfind hsongs =>
    rcases List.mem_pair.mp hf with rfl | rfl
    · obtain rfl := List.mem_singleton.mp hkey
      -- there are no artists in the report
      cases hfind
    · obtain rfl := List.mem_singleton.mp hkey
      obtain rfl := Option.some.inj hfind
      cases hsongs with
      | item hmem hsong =>
        obtain rfl := List.mem_singleton.mp hmem
        cases hsong with
        | here =>
          intro f hf
          obtain ⟨names, hnames, rfl⟩ := List.mem_map.mp hf
          exact h names hnames
        | field hf _ _ hplain =>
          obtain ⟨names, -, rfl⟩ := List.mem_map.mp hf
          cases hplain

theorem foundSong_tidied {members members' : List (String × Json)}
    (h : SongMatch.schema.Tidies (.object members) (.object members')) :
    SearchResults.schema.Tidies (foundSong members) (foundSong members') :=
  .field (f := (["songs"], .list SongMatch.schema)) (List.mem_pair.mpr (.inr rfl))
    (List.mem_singleton.mpr rfl) rfl (.item (i := 0) rfl h)

/-- A song with its second name for an identifier, an unknown key and a null. -/
theorem tidying_unnoticed_search :
    ofEnvelope ⟨"searchResults",
        foundSong [("musicId", .string "S1"), ("rank", .bool true), ("title", .null)]⟩ =
      .ok (some (.searchResults { songs := [{ id := "S1" }] })) := by
  have hunknown : SongMatch.schema.Tidies
      (.object [("musicId", .string "S1"), ("rank", .bool true), ("title", .null)])
      (.object [("musicId", .string "S1"), ("title", .null)]) := .unknown "rank" (by decide)
  have hnull : SongMatch.schema.Tidies
      (.object [("musicId", .string "S1"), ("title", .null)])
      (.object [("musicId", .string "S1")]) := .null "title" rfl
  have hid : (["id", "musicId"], Schema.plain) ∈ SongMatch.fieldNames.map (·, .plain) :=
    List.mem_map_of_mem List.mem_cons_self
  have hrename : SongMatch.schema.Tidies
      (.object [("musicId", .string "S1")]) (.object [("id", .string "S1")]) :=
    @Tidies.rename _ [("musicId", .string "S1")] _ _ _ _ _ hid List.mem_cons_self rfl
  have hchain : Relation.ReflTransGen SearchResults.schema.Tidies
      (foundSong [("musicId", .string "S1"), ("rank", .bool true), ("title", .null)])
      (foundSong [("id", .string "S1")]) :=
    .head (foundSong_tidied hunknown)
      (.head (foundSong_tidied hnull) (.single (foundSong_tidied hrename)))
  exact (tidying_unnoticed .searchResults (by decide)).1 _ _
    (foundSong_unambiguous (by decide)) hchain

end Event

end Tuner
