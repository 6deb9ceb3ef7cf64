import Tuner.Proofs.Toml.Line
import Tuner.Proofs.Toml.Range
import Tuner.Settings

/-!
# Settings are kept

Saved settings are what is loaded the next time. The document that is written has nine lines, and
each is read back by one step of the reader (`parse?_render`). What is still to be known is that the
counts can be written at all: they were integers of a document, or are defaults, and so fit.
-/

namespace Tuner.Settings

open Toml

variable {s : Settings} {text key : String} {rest value : List Char} {fuel : Nat} {d d' : Document}
variable {v : Value}

/-! ## The document that is written -/

/-- The settings as a document. -/
def document (s : Settings) : Entries :=
  [("server", .table .defined
      [("origin", .string s.origin), ("path", .string s.path),
        ("connect_timeout_secs", .integer s.connectTimeout)]),
    ("audio", .table .defined [("max_gain", .float s.maxGain)]),
    ("ui", .table .defined [("toast_secs", .integer s.noticeSeconds)])]

/-- Read from their document, settings are what they were. -/
theorem ofEntries?_document (s : Settings) : ofEntries? s.document = some s := by
  simp [ofEntries?, document, section?, Entries.find?, setting?, text?, count?, quantity?]

theorem header_append (name : String) (rest : List Char) :
    header name ++ rest = '[' :: (name.toList ++ ']' :: '\n' :: rest) := by
  simp [header]

theorem line_append (key : String) (value rest : List Char) :
    line key value ++ rest = key.toList ++ ' ' :: '=' :: ' ' :: (value ++ '\n' :: rest) := by
  simp [line]

/-- The reader goes through the document line by line. -/
theorem lines?_chars (htimeout : s.connectTimeout < Word.signedLimit)
    (hnotice : s.noticeSeconds < Word.signedLimit) (hgain : Scalar.ReadsBack s.maxGain) :
    lines? (fuel + 10) {} s.chars = some ⟨s.document, ["ui"]⟩ := by
  rw [← List.append_nil s.chars]
  simp only [chars, List.append_assoc, List.cons_append]
  rw [header_append, lines?_header (by decide) rfl]
  rw [line_append, lines?_entry (by decide) (denotes_string s.origin) rfl]
  rw [line_append, lines?_entry (by decide) (denotes_string s.path) rfl]
  rw [line_append, lines?_entry (by decide) (denotes_integer htimeout) rfl]
  rw [lines?_empty, header_append, lines?_header (by decide) rfl]
  rw [line_append, lines?_entry (by decide) (denotes_float hgain) rfl]
  rw [lines?_empty, header_append, lines?_header (by decide) rfl]
  rw [line_append, lines?_entry (by decide) (denotes_integer hnotice) rfl]
  unfold lines?
  rfl

/-- **Settings that are written are read again**, if their counts can be written and their ceiling
reads back. -/
theorem parse?_render (htimeout : s.connectTimeout < Word.signedLimit)
    (hnotice : s.noticeSeconds < Word.signedLimit) (hgain : Scalar.ReadsBack s.maxGain) :
    parse? s.render = some s := by
  have hmark : dropMark s.chars = s.chars := rfl
  -- The reader has a unit of fuel for each character, and there are more of these than lines.
  have hlength : 9 ≤ s.chars.length := by
    simp only [chars, header, List.length_append, List.length_cons]
    omega
  obtain ⟨fuel, hfuel⟩ := Nat.exists_eq_add_of_le' hlength
  have hdocument : Toml.parse? s.render = some s.document := by
    rw [Toml.parse?, render, String.toList_ofList, hmark, hfuel,
      lines?_chars htimeout hnotice hgain]
    rfl
  rw [parse?, hdocument, Option.bind_some, ofEntries?_document]

/-! ## Settings that were read -/

/-- The values of a section's keys come from the section. -/
theorem fits_section? {keys : List String} {o : Option Value} {values : List (Option Value)}
    (ho : ∀ v ∈ o, v.Fits) (h : section? keys o = some values) :
    ∀ o' ∈ values, ∀ v ∈ o', v.Fits := by
  intro o' ho' v hv
  unfold section? at h
  split at h
  · obtain rfl := Option.some.inj h
    obtain ⟨key, -, rfl⟩ := List.mem_map.mp ho'
    cases hv
  · next entries =>
    obtain rfl := Option.some.inj h
    obtain ⟨key, -, rfl⟩ := List.mem_map.mp ho'
    -- a section is a table of any kind, and its values are its own
    cases ho _ rfl with
    | table hentries => exact @Entries.Fits.find? _ entries _ hentries hv
  · next items =>
    obtain rfl := Option.some.inj h
    obtain ⟨i, -, rfl⟩ := List.mem_map.mp ho'
    cases ho _ rfl with
    | array hitems => exact hitems v (List.mem_of_getElem? hv)
  · next elements =>
    obtain rfl := Option.some.inj h
    obtain ⟨i, -, rfl⟩ := List.mem_map.mp ho'
    obtain ⟨entries, hentries, rfl⟩ := Option.map_eq_some_iff.mp hv
    cases ho _ rfl with
    | tables helements => exact .table (helements entries (List.mem_of_getElem? hentries))
  · obtain rfl := Option.some.inj h
    obtain ⟨key, -, rfl⟩ := List.mem_map.mp ho'
    cases hv
  · cases h

/-- A count that was read can be written, and so can one that was left out for its default. -/
theorem lt_of_setting? {default n : Nat} {o : Option Value} (hdefault : default < Word.signedLimit)
    (ho : ∀ v ∈ o, v.Fits) (h : setting? default count? o = some n) : n < Word.signedLimit := by
  cases o with
  | none =>
    obtain rfl := Option.some.inj h
    exact hdefault
  | some v =>
    simp only [setting?] at h
    cases ho v rfl with
    | integer hlow hhigh =>
      simp only [count?] at h
      split at h
      · obtain rfl := Option.some.inj h
        omega
      · cases h
    | _ => cases h

/-- The counts of settings that were read can be written. -/
theorem lt_of_ofEntries? {es : Entries} (hes : es.Fits) (h : ofEntries? es = some s) :
    s.connectTimeout < Word.signedLimit ∧ s.noticeSeconds < Word.signedLimit := by
  have hsection : ∀ {keys name values}, section? keys (es.find? name) = some values →
      ∀ o ∈ values, ∀ v ∈ o, v.Fits := fun h => fits_section? (fun _ hv => hes.find? hv) h
  simp only [ofEntries?, Option.bind_eq_bind, Option.bind_eq_some_iff] at h
  obtain ⟨server, hserver, audio, haudio, ui, hui, h⟩ := h
  -- three sections, and in each the keys in their order
  split at h
  · next origin path connectTimeout maxGain noticeSeconds =>
    simp only [Option.bind_eq_some_iff] at h
    obtain ⟨_, -, _, -, timeout, htimeout, _, -, notice, hnotice, h⟩ := h
    obtain rfl := Option.some.inj h
    exact ⟨lt_of_setting? (by decide) (hsection hserver _ (by simp)) htimeout,
      lt_of_setting? (by decide) (hsection hui _ (by simp)) hnotice⟩
  · cases h

/-- The ceiling of the defaults is read back as it is written. -/
theorem readsBack_default : Scalar.ReadsBack ({} : Settings).maxGain := by
  have htext : Scalar.floatStyle.render ({} : Settings).maxGain = "10.0" := by
    decide +kernel
  rw [Scalar.ReadsBack, htext]
  rfl

/-- **What is saved is what is loaded.** Settings that were read from any text can be saved, and the
file has the same settings, if the numeral of a finite gain ceiling names that ceiling. Where there
is no file, the defaults are loaded, and the file that is written then has them as well. -/
theorem saved_loads :
    (∀ text s, parse? text = some s →
      (s.maxGain.isFinite = true → Scalar.ReadsBack s.maxGain) →
        ∃ file, s.save? = some file ∧ load? file = some s) ∧
    load? none = some {} ∧ load? (fileAfterLoad none) = some {} := by
  refine ⟨fun text s h hgain => ?_, rfl, ?_⟩
  · obtain ⟨es, hes, hs⟩ := Option.bind_eq_some_iff.mp h
    obtain ⟨htimeout, hnotice⟩ := lt_of_ofEntries? (fits_parse? hes) hs
    refine ⟨s.save, if_pos ⟨htimeout, hnotice⟩, parse?_render htimeout hnotice ?_⟩
    cases hfinite : s.maxGain.isFinite with
    | true => exact hgain hfinite
    | false => exact Scalar.readsBack_of_isFinite_eq_false hfinite
  · exact parse?_render (by decide) (by decide) readsBack_default

/-- An origin with a line break and quotes of both kinds, and a whole number for the ceiling. -/
theorem saved_loads_quotes :
    let text := "[server]\norigin = \"'\\\"\\n\"\n[audio]\nmax_gain = 6\n"
    let s : Settings := { origin := "'\"\n", maxGain := 6.0 }
    parse? text = some s ∧ ∃ file, s.save? = some file ∧ load? file = some s := by
  intro text s
  have hread : parse? text = some s := by decide +kernel
  have hceiling : Scalar.floatStyle.render s.maxGain = "6.0" := by decide +kernel
  have hgain : Scalar.ReadsBack s.maxGain := by
    rw [Scalar.ReadsBack, hceiling]
    rfl
  exact ⟨hread, saved_loads.1 text s hread fun _ => hgain⟩

end Tuner.Settings
