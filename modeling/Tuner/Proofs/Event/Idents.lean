import Tuner.Proofs.Event.Leniency
import Tuner.Proofs.Json.Numeral

/-!
# Identifiers that are sent as numbers

Where an identifier is asked for, an integer stands for its decimal digits, so that a payload may
give either. `Restates` is one such exchange at any place of a payload where an identifier stands,
be the records around it objects or arrays of their fields. There is one lemma for each record, and
`Event.numbers_as_digits` joins them for all payloads.

An integer from 2⁶³ on is read as a double, whose shortest numeral seldom has the digits of the
integer. `IsExact` says for which integers the exchange is unnoticed, and it is no more than what
is needed.
-/

namespace Tuner

open Payload

/-! ## One identifier -/

namespace Payload

/-- The decimal digits of an integer. -/
def digits (n : Int) : String :=
  String.ofList (Number.integerChars n)

/-- An integer that counts as its own digits where an identifier is asked for: any of 63 bits and a
sign, and of the larger ones those that are the shortest numeral of their double. -/
def IsExact (n : Int) : Prop :=
  n < Word.signedLimit ∨ identStyle.render (Float.ofInt n) = digits n

variable {m n : Int}

/-- To be exact is what is asked of an integer, no more and no less. -/
theorem ident?_integer_iff :
    ident? (.number (.integer n)) = ident? (.string (digits n)) ↔ IsExact n := by
  -- a small integer is read by its digits, and a large one by the numeral of its double
  by_cases hlow : n < Word.signedLimit
  · simp [ident?, IsExact, hlow, digits]
  · simp [ident?, IsExact, hlow]

theorem ident?_string (s : String) : ident? (.string s) = some s := rfl

/-- Digits are read back as the integer they are of, so no two integers have the same. -/
theorem digits_injective (hm : Number.InRange (.integer m)) (hn : Number.InRange (.integer n))
    (h : digits m = digits n) : m = n := by
  have hchars : Number.integerChars m = Number.integerChars n := String.ofList_injective h
  have hread := Number.ofChars?_integerChars hm
  -- the reader of numbers takes the digits for what they were written for
  rw [hchars, Number.ofChars?_integerChars hn] at hread
  cases hread
  rfl

/-- Integers that count as their digits are different identifiers. -/
theorem ident?_injective (hm : Number.InRange (.integer m)) (hn : Number.InRange (.integer n))
    (hexact : IsExact m) (hexact' : IsExact n)
    (h : ident? (.number (.integer m)) = ident? (.number (.integer n))) : m = n := by
  rw [ident?_integer_iff.mpr hexact, ident?_integer_iff.mpr hexact'] at h
  exact digits_injective hm hn (Option.some.inj h)

end Payload

/-! ## Exchanges in a payload -/

namespace Schema

/-- Whether a field holds an identifier, by its proper name. -/
def IsIdent (names : List String) : Prop :=
  names.head? = some "id" ∨ names.head? = some "stationId"

instance (names : List String) : Decidable (IsIdent names) :=
  inferInstanceAs (Decidable (_ ∨ _))

/-- A record with another value in one field. It is an object, where the field goes by one of its
names, or an array of the fields in order. -/
inductive Swaps (fields : Fields) (f : List String × Schema) (v w : Json) :
    Json → Json → Prop where
  | object {members : List (String × Json)} {key : String} (hf : f ∈ fields) (hkey : key ∈ f.1)
      (hfind : findMember? key members = some v) :
      Swaps fields f v w (.object members) (.object (insertMember key w members))
  | array {items : List Json} {i : Nat} (hf : fields[i]? = some f) (hget : items[i]? = some v) :
      Swaps fields f v w (.array items) (.array (items.set i w))

mutual

/-- An identifier that is given as an integer is given by its digits instead. -/
inductive Restates (n : Int) : Schema → Json → Json → Prop where
  | field {fields : Fields} {f : List String × Schema} {v w v' w' : Json} (hv : Exchanges n f v w)
      (h : Swaps fields f v w v' w') : Restates n (.record fields) v' w'
  | item {item : Schema} {items : List Json} {i : Nat} {v w : Json} (hget : items[i]? = some v)
      (hv : Restates n item v w) : Restates n (.list item) (.array items) (.array (items.set i w))

/-- The value of a field is that identifier, or the identifier is further in. -/
inductive Exchanges (n : Int) : List String × Schema → Json → Json → Prop where
  | ident {names : List String} (hident : IsIdent names) :
      Exchanges n (names, .plain) (.number (.integer n)) (.string (digits n))
  | further {names : List String} {schema : Schema} {v w : Json} (hv : Restates n schema v w) :
      Exchanges n (names, schema) v w

end

/-- What an exchange in a record makes of the value of a field. -/
inductive Restated (n : Int) (f : List String × Schema) : Option Json → Option Json → Prop where
  | same (o : Option Json) : Restated n f o o
  | exchanged {v w : Json} (h : Exchanges n f v w) : Restated n f (some v) (some w)

variable {α : Type} {schema elem : Schema} {fields : Fields} {names : List String}
variable {members : List (String × Json)} {key : String} {f : List String × Schema}
variable {read : Json → Option α} {o o' : Option Json} {v w v' w' : Json} {n : Int}

/-! ## The fields of a record -/

theorem Swaps.mem (h : Swaps fields f v w v' w') : f ∈ fields := by
  cases h with
  | object hf => exact hf
  | array hf => exact List.mem_of_getElem? hf

theorem filterMap_insertMember (hkey : key ∉ names) :
    names.filterMap (findMember? · (insertMember key w members)) =
      names.filterMap (findMember? · members) := by
  refine List.filterMap_congr fun a ha => ?_
  have hne : key ≠ a := fun heq => hkey (heq ▸ ha)
  rw [findMember?_insertMember, if_neg hne]

/-- A field that does not go by the key has the value it had. -/
theorem value?_insertMember_of_notMem (hkey : key ∉ names) :
    value? (insertMember key w members) names = value? members names := by
  rw [value?, value?, filterMap_insertMember hkey]

/-- Fields that do not go by the key have the values they had. Induction on the fields. -/
theorem fields?_insertMember_of_notMem {names : List (List String)}
    (hkey : ∀ ns ∈ names, key ∉ ns) :
    fields? names (.object (insertMember key w members)) = fields? names (.object members) := by
  simp only [fields?]
  induction names with
  | nil => rfl
  | cons ns rest ih =>
    rw [List.mapM_cons, List.mapM_cons, ih fun ns' h => hkey ns' (List.mem_cons_of_mem _ h),
      value?_insertMember_of_notMem (hkey ns List.mem_cons_self)]

/-- A field with another value is still at fault if it has two names, and else has that value. -/
theorem value?_insertMember (hnodup : names.Nodup) (hkey : key ∈ names)
    (hfind : findMember? key members = some v) :
    (value? members names = none ∧ value? (insertMember key w members) names = none) ∨
      (value? members names = some (some v) ∧
        value? (insertMember key w members) names = some (some w)) := by
  obtain ⟨before, behind, rfl⟩ := List.append_of_mem hkey
  obtain ⟨hbefore, hbehind⟩ : key ∉ before ∧ key ∉ behind := by
    rw [List.nodup_middle, List.nodup_cons, List.mem_append, not_or] at hnodup
    exact hnodup.1
  have hinserted : findMember? key (insertMember key w members) = some w := by
    rw [findMember?_insertMember, if_pos rfl]
  simp only [value?, List.filterMap_append, List.filterMap_cons, hfind, hinserted,
    filterMap_insertMember hbefore, filterMap_insertMember hbehind]
  -- With no other name there is one value, and with another one there are two.
  cases before.filterMap (findMember? · members) with
  | nil => cases behind.filterMap (findMember? · members) <;> simp
  | cons first rest => cases rest <;> simp

section Lists

variable {α β : Type} {as : List α} {f f' : α → Option β} {R : α → β × β → Prop}

/-- Two readers of items that differ as some relation says, over a list. -/
theorem mapM_related
    (h : ∀ a ∈ as, (f a = none ∧ f' a = none) ∨
      ∃ b : β × β, f a = some b.1 ∧ f' a = some b.2 ∧ R a b) :
    (as.mapM f = none ∧ as.mapM f' = none) ∨
      ∃ bs : List (β × β), as.mapM f = some (bs.map (·.1)) ∧ as.mapM f' = some (bs.map (·.2)) ∧
        List.Forall₂ R as bs := by
  induction as with
  | nil => exact .inr ⟨[], rfl, rfl, .nil⟩
  | cons a as ih =>
    -- both readers fail at the same item, or at none
    rcases h a List.mem_cons_self with ⟨hnone, hnone'⟩ | ⟨b, hb, hb', hR⟩
    · exact .inl ⟨by simp [List.mapM_cons, hnone], by simp [List.mapM_cons, hnone']⟩
    · rcases ih fun a' ha' => h a' (List.mem_cons_of_mem _ ha') with
        ⟨hnone, hnone'⟩ | ⟨bs, hbs, hbs', hall⟩
      · exact .inl ⟨by simp [List.mapM_cons, hnone], by simp [List.mapM_cons, hnone']⟩
      · exact .inr ⟨b :: bs, by simp [List.mapM_cons, hb, hbs], by simp [List.mapM_cons, hb', hbs'],
          .cons hR hall⟩

end Lists

/-- In an array the field at one place gets another value, and the others stay. -/
theorem forall₂_zip_set {values : List (Option Json)} {i : Nat}
    (hlength : fields.length = values.length) (hf : fields[i]? = some f)
    (hget : values[i]? = some o) :
    List.Forall₂ (fun g p => p.1 = p.2 ∨ g = f ∧ p = (o, o')) fields
      (values.zip (values.set i o')) := by
  refine List.forall₂_iff_get.mpr ⟨by simp [hlength], fun j hj hj' => ?_⟩
  simp only [List.get_eq_getElem, List.getElem_zip, List.getElem_set]
  by_cases hij : i = j
  · subst hij
    obtain ⟨_, hfield⟩ := List.getElem?_eq_some_iff.mp hf
    obtain ⟨_, hvalue⟩ := List.getElem?_eq_some_iff.mp hget
    exact .inr ⟨hfield, by rw [if_pos rfl, hvalue]⟩
  · exact .inl (by rw [if_neg hij])

/-- **The fields of a record before and after one of them gets another value.** -/
theorem fields?_swaps (hdistinct : (Schema.record fields).Distinct) (h : Swaps fields f v w v' w') :
    (fields? (fields.map (·.1)) v' = none ∧ fields? (fields.map (·.1)) w' = none) ∨
      ∃ values : List (Option Json × Option Json),
        fields? (fields.map (·.1)) v' = some (values.map (·.1)) ∧
        fields? (fields.map (·.1)) w' = some (values.map (·.2)) ∧
        List.Forall₂ (fun g o => o.1 = o.2 ∨ g = f ∧ o = (some v, some w)) fields values := by
  cases h with
  | @object members key hf hkey hfind =>
    simp only [fields?, List.mapM_map]
    refine mapM_related fun g hg => ?_
    -- No other field goes by the key that gets another value.
    by_cases hgf : g = f
    · subst hgf
      rcases value?_insertMember (w := w) (hdistinct.nodup hg) hkey hfind with
        hnone | ⟨hread, hread'⟩
      · exact .inl hnone
      · exact .inr ⟨(some v, some w), hread, hread', .inr ⟨rfl, rfl⟩⟩
    · have hne : key ∉ g.1 := fun hmem => hgf (hdistinct.eq_of_name hg hf hmem hkey)
      simp only [Function.comp_apply, value?_insertMember_of_notMem hne]
      cases value? members g.1 with
      | none => exact .inl ⟨rfl, rfl⟩
      | some o => exact .inr ⟨(o, o), rfl, rfl, .inl rfl⟩
  | @array items i hf hget =>
    simp only [fields?, List.length_map, List.length_set]
    -- an array with more items than fields is at fault, before and after
    by_cases hlength : items.length ≤ fields.length
    · have hitem : i < items.length := (List.getElem?_eq_some_iff.mp hget).1
      -- Fields beyond the end of the array are missing, before and after.
      let values := items.map some ++ List.replicate (fields.length - items.length) none
      have hvalues : values.length = fields.length := by
        simp only [values, List.length_append, List.length_map, List.length_replicate]
        omega
      have hset : (items.set i w).map some ++
          List.replicate (fields.length - items.length) none = values.set i (some w) := by
        rw [List.map_set, List.set_append_left _ _ (by simpa using hitem)]
      have hold : values[i]? = some (some v) := by
        rw [List.getElem?_append_left (by simpa using hitem), List.getElem?_map, hget]
        rfl
      refine .inr ⟨values.zip (values.set i (some w)), ?_, ?_, ?_⟩
      · rw [if_pos hlength, List.map_fst_zip (by simp)]
      · rw [if_pos hlength, List.map_snd_zip (by simp), hset]
      · exact forall₂_zip_set hvalues.symm hf hold
    · simp [hlength]

/-- What an exchange does to the fields of a record. -/
theorem fields?_restates (hdistinct : (Schema.record fields).Distinct)
    (h : (Schema.record fields).Restates n v w) :
    (fields? (fields.map (·.1)) v = none ∧ fields? (fields.map (·.1)) w = none) ∨
      ∃ values : List (Option Json × Option Json),
        fields? (fields.map (·.1)) v = some (values.map (·.1)) ∧
        fields? (fields.map (·.1)) w = some (values.map (·.2)) ∧
        List.Forall₂ (fun f o => Restated n f o.1 o.2) fields values := by
  cases h with
  | field hv hswaps =>
    refine (fields?_swaps hdistinct hswaps).imp_right fun ⟨values, hread, hread', hall⟩ =>
      ⟨values, hread, hread', hall.imp fun g o ho => ?_⟩
    rcases ho with hsame | ⟨rfl, rfl⟩
    · rw [hsame]
      exact .same o.2
    · exact .exchanged hv

/-! ## Readers -/

/-- No exchange in a value makes a difference to a reader, if the integer counts as its digits. -/
def ReadsAlike (schema : Schema) (read : Json → Option α) : Prop :=
  ∀ n, IsExact n → ∀ v w, schema.Restates n v w → read v = read w

/-- For a record it is enough to look at what is built from the values of the fields, each of them
as it was or exchanged. -/
theorem readsAlike_record (names : List (List String)) (hnames : fields.map (·.1) = names)
    (hdistinct : (Schema.record fields).Distinct) {build : List (Option Json) → Option α}
    (hbuild : ∀ n, IsExact n → ∀ values : List (Option Json × Option Json),
      List.Forall₂ (fun f o => Restated n f o.1 o.2) fields values →
        build (values.map (·.1)) = build (values.map (·.2))) :
    (Schema.record fields).ReadsAlike fun v => (fields? names v).bind build := by
  subst hnames
  intro n hexact v w h
  show (fields? _ v).bind build = (fields? _ w).bind build
  rcases fields?_restates hdistinct h with ⟨hnone, hnone'⟩ | ⟨values, hread, hread', hall⟩
  · rw [hnone, hnone']
  · rw [hread, hread']
    exact hbuild n hexact values hall

/-- An exchange in a list is one in an item of it, and the other items stay. -/
theorem readsAlike_list (hread : elem.ReadsAlike read) :
    (Schema.list elem).ReadsAlike (list? read) := by
  intro n hexact v w h
  cases h with
  | item hget h => exact (mapM_set hget (hread n hexact _ _ h)).symm

/-- In a record without identifiers there is nothing to exchange. -/
theorem readsAlike_flat {names : List (List String)} (read : Json → Option α)
    (hnone : ∀ ns ∈ names, ¬ IsIdent ns) : (flat names).ReadsAlike read := by
  intro _ _ v w h
  cases h with
  | field hv hswaps =>
    obtain ⟨ns, hns, rfl⟩ := List.mem_map.mp hswaps.mem
    cases hv with
    | ident hident => exact absurd hident (hnone _ hns)
    | further hv => cases hv

/-- What is exchanged is a record or a list, before and after. -/
theorem Restates.ne_null (h : schema.Restates n v w) : v ≠ .null ∧ w ≠ .null := by
  cases h with
  | field _ h => cases h <;> simp
  | item => simp

/-- An identifier is read alike in both forms, be it one that must be there or not. -/
theorem ident?_restated (hexact : IsExact n) (h : Restated n (names, .plain) o o') :
    required? ident? o = required? ident? o' ∧ optional? ident? o = optional? ident? o' := by
  cases h with
  | same => exact ⟨rfl, rfl⟩
  | exchanged h =>
    cases h with
    | ident =>
      have hread := ident?_integer_iff.mpr hexact
      exact ⟨hread, congrArg (Option.map some) hread⟩
    | further hv => cases hv

/-- In a field that is no identifier an exchange can only be further in. -/
theorem Restated.further (h : Restated n (names, schema) o o') (hnot : ¬ IsIdent names) :
    o = o' ∨ ∃ v w, o = some v ∧ o' = some w ∧ schema.Restates n v w := by
  cases h with
  | same => exact .inl rfl
  | exchanged h =>
    cases h with
    | ident hident => exact absurd hident hnot
    | further hv => exact .inr ⟨_, _, rfl, rfl, hv⟩

/-- A field without records in it, and that is no identifier, stays as it was. -/
theorem Restated.eq_of_plain (h : Restated n (names, .plain) o o') (hnot : ¬ IsIdent names) :
    o = o' := by
  obtain heq | ⟨v, w, -, -, hv⟩ := h.further hnot
  · exact heq
  · cases hv

/-- A field with a default passes on what is said of its own reader, since it is null neither before
nor after. -/
theorem orDefault?_restated (default : α) (hread : schema.ReadsAlike read) (hexact : IsExact n)
    (h : Restated n (names, schema) o o') (hnot : ¬ IsIdent names) :
    orDefault? default read o = orDefault? default read o' := by
  obtain rfl | ⟨v, w, rfl, rfl, hv⟩ := h.further hnot
  · rfl
  · rw [orDefault?_of_ne_null hv.ne_null.1, orDefault?_of_ne_null hv.ne_null.2,
      hread n hexact v w hv]

theorem optional?_restated (hread : schema.ReadsAlike read) (hexact : IsExact n)
    (h : Restated n (names, schema) o o') (hnot : ¬ IsIdent names) :
    optional? read o = optional? read o' := by
  obtain rfl | ⟨v, w, rfl, rfl, hv⟩ := h.further hnot
  · rfl
  · rw [optional?_of_ne_null hv.ne_null.1, optional?_of_ne_null hv.ne_null.2,
      hread n hexact v w hv]

end Schema

open Schema

/-! ## Records -/

theorem Station.readsAlike : Station.schema.ReadsAlike Station.ofJson? := by
  refine readsAlike_record Station.fieldNames rfl (distinct_flat (by decide))
    fun n hexact values hall => ?_
  rcases hall with - | ⟨hid, - | ⟨hname, - | ⟨hmix, - | ⟨hmixed, - | -⟩⟩⟩⟩
  simp only [List.map]
  rw [(ident?_restated hexact hid).1, hname.eq_of_plain (by decide), hmix.eq_of_plain (by decide),
    hmixed.eq_of_plain (by decide)]

theorem Genre.readsAlike : Genre.schema.ReadsAlike Genre.ofJson? := by
  refine readsAlike_record Genre.fieldNames rfl (distinct_flat (by decide))
    fun n hexact values hall => ?_
  rcases hall with - | ⟨hid, - | ⟨hname, - | -⟩⟩
  simp only [List.map]
  rw [(ident?_restated hexact hid).1, hname.eq_of_plain (by decide)]

theorem ArtistMatch.readsAlike : ArtistMatch.schema.ReadsAlike ArtistMatch.ofJson? := by
  refine readsAlike_record ArtistMatch.fieldNames rfl (distinct_flat (by decide))
    fun n hexact values hall => ?_
  rcases hall with - | ⟨hid, - | ⟨hname, - | -⟩⟩
  simp only [List.map]
  rw [(ident?_restated hexact hid).1, hname.eq_of_plain (by decide)]

theorem SongMatch.readsAlike : SongMatch.schema.ReadsAlike SongMatch.ofJson? := by
  refine readsAlike_record SongMatch.fieldNames rfl (distinct_flat (by decide))
    fun n hexact values hall => ?_
  rcases hall with - | ⟨hid, - | ⟨htitle, - | ⟨hartist, - | -⟩⟩⟩
  simp only [List.map]
  rw [(ident?_restated hexact hid).1, htitle.eq_of_plain (by decide),
    hartist.eq_of_plain (by decide)]

theorem Seed.readsAlike : Seed.schema.ReadsAlike Seed.ofJson? := by
  refine readsAlike_record Seed.fieldNames rfl (distinct_flat (by decide))
    fun n hexact values hall => ?_
  rcases hall with - | ⟨hid, - | ⟨hkind, - | ⟨hname, - | -⟩⟩⟩
  simp only [List.map]
  rw [(ident?_restated hexact hid).1, hkind.eq_of_plain (by decide), hname.eq_of_plain (by decide)]

theorem Song.readsAlike : Song.schema.ReadsAlike Song.ofJson? := readsAlike_flat _ (by decide)

/-- In a snapshot the station has an identifier, and the song has none. -/
theorem Snapshot.readsAlike : Snapshot.schema.ReadsAlike Snapshot.ofJson? := by
  refine readsAlike_record Snapshot.fieldNames rfl Snapshot.distinct
    fun n hexact values hall => ?_
  rcases hall with - | ⟨hsong, - | ⟨hplaying, - | ⟨helapsed, - | ⟨hstation, - | ⟨hstationId,
    - | ⟨hvolume, - | ⟨hmaxGain, - | -⟩⟩⟩⟩⟩⟩⟩
  simp only [List.map]
  rw [optional?_restated Song.readsAlike hexact hsong (by decide), hplaying.eq_of_plain (by decide),
    helapsed.eq_of_plain (by decide), hstation.eq_of_plain (by decide),
    (ident?_restated hexact hstationId).2, hvolume.eq_of_plain (by decide),
    hmaxGain.eq_of_plain (by decide)]

theorem GenreCategory.readsAlike : GenreCategory.schema.ReadsAlike GenreCategory.ofJson? := by
  refine readsAlike_record GenreCategory.fieldNames rfl GenreCategory.distinct
    fun n hexact values hall => ?_
  rcases hall with - | ⟨hname, - | ⟨hgenres, - | -⟩⟩
  simp only [List.map]
  rw [hname.eq_of_plain (by decide),
    orDefault?_restated [] (readsAlike_list Genre.readsAlike) hexact hgenres (by decide)]

theorem SearchResults.readsAlike : SearchResults.schema.ReadsAlike SearchResults.ofJson? := by
  refine readsAlike_record SearchResults.fieldNames rfl SearchResults.distinct
    fun n hexact values hall => ?_
  rcases hall with - | ⟨hartists, - | ⟨hsongs, - | -⟩⟩
  simp only [List.map]
  rw [orDefault?_restated [] (readsAlike_list ArtistMatch.readsAlike) hexact hartists (by decide),
    orDefault?_restated [] (readsAlike_list SongMatch.readsAlike) hexact hsongs (by decide)]

/-- The seeds of a station have identifiers of their own. -/
theorem StationInfo.readsAlike : StationInfo.schema.ReadsAlike StationInfo.ofJson? := by
  refine readsAlike_record StationInfo.fieldNames rfl StationInfo.distinct
    fun n hexact values hall => ?_
  rcases hall with - | ⟨hstationId, - | ⟨hseeds, - | -⟩⟩
  simp only [List.map]
  rw [(ident?_restated hexact hstationId).2,
    orDefault?_restated [] (readsAlike_list Seed.readsAlike) hexact hseeds (by decide)]

/-- A track that starts is an object, and the identifier is none of the fields of the song. -/
theorem TrackStart.readsAlike : TrackStart.schema.ReadsAlike TrackStart.ofJson? := by
  have honly : ∀ names ∈ Song.fieldNames ++ [["stationId"], ["station"]],
      IsIdent names → names = ["stationId"] := by decide
  have hsong : ∀ names ∈ Song.fieldNames, "stationId" ∉ names := by decide
  intro n hexact v w h
  cases h with
  | field hv hswaps =>
    cases hswaps with
    | array => rfl
    | @object members key hf hkey hfind =>
      obtain ⟨names, hnames, rfl⟩ := List.mem_map.mp hf
      cases hv with
      | further hv => cases hv
      | ident hident =>
        -- The song of the track does not look at this field, and the station of the track does.
        obtain rfl := honly names hnames hident
        obtain rfl := List.mem_singleton.mp hkey
        have hsame : Song.ofJson?
              (.object (insertMember "stationId" (.string (digits n)) members)) =
            Song.ofJson? (.object members) := by
          rw [Song.ofJson?, Song.ofJson?, fields?_insertMember_of_notMem hsong]
        have hread := ident?_integer_iff.mpr hexact
        simp only [TrackStart.ofJson?, hsame, findMember?_insertMember, hfind]
        simp [optional?, hread]

/-! ## Events -/

namespace Event

variable {kind : EventKind} {v w : Json} {n : Int}

/-- A payload in which something is exchanged is not null, so it is not taken for an empty one. -/
theorem orEmpty?_readsAlike {α : Type} {schema : Schema} {read : Json → Option α} (empty : α)
    (hread : schema.ReadsAlike read) : schema.ReadsAlike (orEmpty? empty read) := by
  intro n hexact v w h
  rw [orEmpty?, orEmpty?, orDefault?_of_ne_null h.ne_null.1, orDefault?_of_ne_null h.ne_null.2,
    hread n hexact v w h]

/-- **An exchange makes no difference to the event of a payload.** -/
theorem ofPayload?_restated (hexact : IsExact n) (h : kind.schema.Restates n v w) :
    ofPayload? v kind = ofPayload? w kind := by
  have hmap : ∀ {α : Type} {read : Json → Option α} (empty : α) (wrap : α → Event),
      kind.schema.ReadsAlike read →
        (orEmpty? empty read v).map wrap = (orEmpty? empty read w).map wrap :=
    fun empty wrap hread =>
      congrArg (Option.map wrap) (orEmpty?_readsAlike empty hread n hexact v w h)
  cases kind with
  | start => exact hmap {} .start TrackStart.readsAlike
  | stop => rfl
  | progress => exact hmap {} .progress (readsAlike_flat _ (by decide))
  | stations => exact hmap [] .stations (readsAlike_list Station.readsAlike)
  | process => exact hmap {} .process Snapshot.readsAlike
  | genres => exact hmap [] .genres (readsAlike_list GenreCategory.readsAlike)
  | searchResults => exact hmap {} .searchResults SearchResults.readsAlike
  | songExplanation => cases h
  | upcomingResult =>
    exact hmap [] .upcomingResult (readsAlike_list (readsAlike_flat _ (by decide)))
  | stationInfo => exact hmap {} .stationInfo StationInfo.readsAlike

/-- A list of one station with an identifier. -/
def oneStation (id : Json) : Envelope :=
  ⟨EventKind.stations.name, .array [.object [("id", id)]]⟩

theorem ofEnvelope_oneStation (id : Json) :
    ofEnvelope (oneStation id) =
      match ident? id with
      | some text => .ok (some (.stations [{ id := text }]))
      | none => .error (.payload .stations) := by
  rw [oneStation, ofEnvelope_name]
  cases h : ident? id <;>
    simp [ofPayload?, orEmpty?, orDefault?, list?, Station.ofJson?, fields?, Station.fieldNames,
      value?, findMember?, required?, h, fault]

theorem oneStation_restates (n : Int) :
    EventKind.stations.schema.Restates n (.array [.object [("id", .number (.integer n))]])
      (.array [.object [("id", .string (digits n))]]) := by
  have hid : (["id"], Schema.plain) ∈ Station.fieldNames.map (·, .plain) :=
    List.mem_map_of_mem List.mem_cons_self
  have hstation : Station.schema.Restates n (.object [("id", .number (.integer n))])
      (.object [("id", .string (digits n))]) :=
    .field (.ident (.inl rfl))
      (@Swaps.object _ _ _ _ [("id", .number (.integer n))] "id" hid List.mem_cons_self rfl)
  exact .item (i := 0) rfl hstation

/-- **An integer stands for its digits wherever an identifier is asked for.** At every place of an
identifier in a payload it can be given by its digits instead: the envelope has the same event, or
is at fault as before. That is so just for the integers that count as their digits, and none of
these is the same identifier as another one. -/
theorem numbers_as_digits (n : Int) :
    ((∀ (kind : EventKind) (v w : Json), kind.schema.Restates n v w →
      ofEnvelope ⟨kind.name, v⟩ = ofEnvelope ⟨kind.name, w⟩) ↔ IsExact n) ∧
    ∀ m : Int, Number.InRange (.integer m) → Number.InRange (.integer n) → IsExact m → IsExact n →
      ident? (.number (.integer m)) = ident? (.number (.integer n)) → m = n := by
  refine ⟨⟨fun hsame => ?_, fun hexact kind v w h => ?_⟩, fun m => ident?_injective⟩
  · -- one place is enough to see that nothing less will do: the station of a list of one
    have hstation := hsame .stations _ _ (oneStation_restates n)
    rw [← oneStation, ← oneStation, ofEnvelope_oneStation, ofEnvelope_oneStation,
      ident?_string] at hstation
    refine ident?_integer_iff.mp ?_
    cases hread : ident? (.number (.integer n)) with
    | none =>
      rw [hread] at hstation
      cases hstation
    | some text =>
      rw [hread] at hstation
      simpa [ident?_string] using hstation
  · rw [ofEnvelope_name, ofEnvelope_name, ofPayload?_restated hexact h]

/-- The seeds of a station as an array of its fields, with the identifier of one seed. -/
def oneSeed (seedId : Json) : Json :=
  .array [.string "42", .array [.object [("seedId", seedId)]]]

/-- The identifier of a seed is given as a number, under its second name. -/
theorem numbers_as_digits_seed :
    ofEnvelope ⟨"stationInfo", oneSeed (.number (.integer (-7)))⟩ =
        .ok (some (.stationInfo { stationId := some "42", seeds := [{ id := "-7" }] })) ∧
      ident? (.number (.integer 7)) ≠ ident? (.number (.integer (-7))) := by
  obtain ⟨hsame, hdistinct⟩ := numbers_as_digits (-7)
  have hid : (["id", "seedId"], Schema.plain) ∈ Seed.fieldNames.map (·, .plain) :=
    List.mem_map_of_mem List.mem_cons_self
  have hseed : Seed.schema.Restates (-7) (.object [("seedId", .number (.integer (-7)))])
      (.object [("seedId", .string "-7")]) :=
    .field (.ident (.inl rfl))
      (@Swaps.object _ _ _ _ [("seedId", .number (.integer (-7)))] "seedId" hid (by decide) rfl)
  have hlist : (Schema.list Seed.schema).Restates (-7)
      (.array [.object [("seedId", .number (.integer (-7)))]])
      (.array [.object [("seedId", .string "-7")]]) := .item (i := 0) rfl hseed
  have hseeds : StationInfo.schema.Restates (-7)
      (oneSeed (.number (.integer (-7)))) (oneSeed (.string "-7")) :=
    .field (.further hlist) (.array (i := 1) rfl rfl)
  refine ⟨hsame.mpr (.inl (by decide)) .stationInfo _ _ hseeds, fun heq => ?_⟩
  have hequal := hdistinct 7 ⟨by decide, by decide⟩ ⟨by decide, by decide⟩
    (.inl (by decide)) (.inl (by decide)) heq
  exact absurd hequal (by decide)

/-- From 2⁶³ on an integer may be another identifier than its digits, and the same as its
successor. -/
theorem number_not_its_digits :
    let n : Int := 9223372036854775808
    Number.InRange (.integer n) ∧
      ofEnvelope (oneStation (.number (.integer n))) ≠
        ofEnvelope (oneStation (.string (digits n))) ∧
      ofEnvelope (oneStation (.number (.integer n))) =
        ofEnvelope (oneStation (.number (.integer (n + 1)))) := by
  intro n
  have hread : ident? (.number (.integer n)) = some "9223372036854776000" := by decide +kernel
  have hnext : ident? (.number (.integer (n + 1))) = some "9223372036854776000" := by
    decide +kernel
  have hdigits : digits n = "9223372036854775808" := by decide +kernel
  simp only [ofEnvelope_oneStation, hread, hnext, ident?_string, hdigits]
  exact ⟨⟨by decide, by decide⟩, by simp, trivial⟩

end Event

end Tuner
