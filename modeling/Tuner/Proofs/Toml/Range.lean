import Tuner.Toml.Reader

/-!
# The integers of a document

Integers are checked where they are read, and tables are put together from what was read before. So
every integer of a document fits 64 bits with a sign, however deep it is nested (`fits_parse?`).
-/

namespace Tuner.Toml

/-- All integers in a value fit 64 bits with a sign. -/
inductive Value.Fits : Value → Prop where
  | string (s : String) : Fits (.string s)
  | integer {n : Int} (hlow : -(Word.signedLimit : Int) ≤ n) (hhigh : n < Word.signedLimit) :
      Fits (.integer n)
  | float (x : Float) : Fits (.float x)
  | bool (b : Bool) : Fits (.bool b)
  | dateTime : Fits .dateTime
  | array {items : List Value} (h : ∀ v ∈ items, Fits v) : Fits (.array items)
  | table {standing : Standing} {entries : List (String × Value)} (h : ∀ e ∈ entries, Fits e.2) :
      Fits (.table standing entries)
  | tables {elements : List (List (String × Value))}
      (h : ∀ entries ∈ elements, ∀ e ∈ entries, Fits e.2) : Fits (.tables elements)

/-- All integers in a table fit 64 bits with a sign. -/
def Entries.Fits (es : Entries) : Prop :=
  ∀ e ∈ es, e.2.Fits

variable {v : Value} {es es' : Entries} {key : String} {path : List String} {cs rest : List Char}
variable {fuel depth : Nat}

/-! ## Tables -/

namespace Entries

theorem fits_nil : Entries.Fits [] := fun _ h => absurd h List.not_mem_nil

theorem Fits.find? (hes : es.Fits) (h : es.find? key = some v) : v.Fits := by
  obtain ⟨e, he, rfl⟩ := Option.map_eq_some_iff.mp h
  exact hes e (List.mem_of_find?_eq_some he)

theorem Fits.table {standing : Standing} (hes : es.Fits)
    (h : es.find? key = some (.table standing es')) : Entries.Fits es' := by
  cases hes.find? h with
  | table h => exact h

theorem Fits.elements {elements : List Entries} (hes : es.Fits)
    (h : es.find? key = some (.tables elements)) : ∀ es' ∈ elements, Entries.Fits es' := by
  cases hes.find? h with
  | tables h => exact h

theorem Fits.concat (hes : es.Fits) (hv : v.Fits) : Entries.Fits (es ++ [(key, v)]) := by
  intro e he
  rcases List.mem_append.mp he with he | he
  · exact hes e he
  · obtain rfl := List.mem_singleton.mp he
    exact hv

theorem Fits.replace (hes : es.Fits) (hv : v.Fits) : (es.replace key v).Fits := by
  intro e he
  obtain ⟨e', he', rfl⟩ := List.mem_map.mp he
  split
  · exact hv
  · exact hes e' he'

/-- A change at the end of a path keeps what fits if the change does. Induction on the path, with
the table that it starts from. -/
theorem Fits.updateAt {missing : Standing} {change : Standing → Entries → Option Entries}
    (hchange : ∀ standing es es', Entries.Fits es → change standing es = some es' →
      Entries.Fits es')
    {standing : Standing} (hes : es.Fits)
    (h : Entries.updateAt missing change path standing es = some es') : Entries.Fits es' := by
  induction path generalizing standing es es' with
  | nil => exact hchange standing es es' hes h
  | cons key path ih =>
    unfold Entries.updateAt at h
    split at h
    · -- a table that is missing is put there
      obtain ⟨sub, hsub, rfl⟩ := Option.map_eq_some_iff.mp h
      exact hes.concat (.table (ih fits_nil hsub))
    · next hfind =>
      split at h
      · cases h
      · obtain ⟨sub, hsub, rfl⟩ := Option.map_eq_some_iff.mp h
        exact hes.replace (.table (ih (hes.table hfind) hsub))
    · next elements hfind =>
      split at h
      · cases h
      · next last hlast =>
        obtain ⟨last', hlast', rfl⟩ := Option.map_eq_some_iff.mp h
        -- Only the last element is changed.
        have hall := hes.elements hfind
        refine hes.replace (.tables fun es' hes' => ?_)
        rcases List.mem_append.mp hes' with hes' | hes'
        · exact hall es' ((List.dropLast_sublist elements).subset hes')
        · obtain rfl := List.mem_singleton.mp hes'
          exact ih (hall last (List.mem_of_getLast? hlast)) hlast'
    · cases h

/-- A key is added where it is new, and is refused elsewhere. -/
theorem Fits.add? (hes : es.Fits) (hv : v.Fits) (h : es.add? key v = some es') :
    Entries.Fits es' := by
  unfold Entries.add? at h
  split at h
  · obtain rfl := Option.some.inj h
    exact hes.concat hv
  · cases h

/-- A key with a path leads to a table further in, which may be a new one. -/
theorem Fits.insert? (hes : es.Fits) (hv : v.Fits) (h : es.insert? path key v = some es') :
    Entries.Fits es' := by
  refine hes.updateAt (fun standing es es' hes h => ?_) h
  split at h
  · exact hes.add? hv h
  · cases h

/-- A header opens a new table, or one that stands there already. -/
theorem Fits.define? (hes : es.Fits) (h : es.define? key = some es') : Entries.Fits es' := by
  unfold Entries.define? at h
  split at h
  · obtain rfl := Option.some.inj h
    exact hes.concat (.table fits_nil)
  · next hfind =>
    obtain rfl := Option.some.inj h
    exact hes.replace (.table (hes.table hfind))
  · cases h

/-- A header of an element adds an empty table. -/
theorem Fits.append? (hes : es.Fits) (h : es.append? key = some es') : Entries.Fits es' := by
  unfold Entries.append? at h
  split at h
  · obtain rfl := Option.some.inj h
    exact hes.concat (.tables fun es' hes' => by
      obtain rfl := List.mem_singleton.mp hes'
      exact fits_nil)
  · next elements hfind =>
    obtain rfl := Option.some.inj h
    refine hes.replace (.tables fun es' hes' => ?_)
    rcases List.mem_append.mp hes' with hes' | hes'
    · exact hes.elements hfind es' hes'
    · obtain rfl := List.mem_singleton.mp hes'
      exact fits_nil
  · cases h

end Entries

/-! ## Values -/

namespace Scalar

theorem fits_fitting? {n : Int} (h : fitting? n = some v) : v.Fits := by
  unfold fitting? at h
  split at h
  · next hrange =>
    obtain rfl := Option.some.inj h
    exact .integer hrange.1 hrange.2
  · cases h

theorem fits_integer? (h : integer? cs = some v) : v.Fits := by
  unfold integer? at h
  split at h
  all_goals
    obtain ⟨ds, -, h⟩ := Option.bind_eq_some_iff.mp h
    exact fits_fitting? h

theorem fits_float? (h : float? cs = some v) : v.Fits := by
  unfold float? at h
  dsimp only at h
  split at h
  · obtain rfl := Option.some.inj h
    exact .float _
  · split at h
    · obtain rfl := Option.some.inj h
      exact .float _
    · obtain ⟨x, -, rfl⟩ := Option.map_eq_some_iff.mp h
      exact .float x

/-- A bare value is an integer, or it has none in it. -/
theorem fits_ofBare? (h : ofBare? cs = some v) : v.Fits := by
  unfold ofBare? at h
  split at h
  · obtain rfl := Option.some.inj h
    exact .bool true
  · split at h
    · obtain rfl := Option.some.inj h
      exact .bool false
    · split at h
      · obtain rfl := Option.some.inj h
        exact .dateTime
      · rcases Option.or_eq_some_iff.mp h with h | ⟨-, h⟩
        · exact fits_integer? h
        · exact fits_float? h

theorem fits_read? (h : read? cs = some (v, rest)) : v.Fits := by
  unfold read? at h
  dsimp only at h
  split at h
  · cases h
    exact .dateTime
  · obtain ⟨v', hv', heq⟩ := Option.map_eq_some_iff.mp h
    cases heq
    exact fits_ofBare? hv'

end Scalar

/-- What the three readers read with some fuel fits: a value, the items of an array behind those
that were read already, and the members of a table behind those. -/
structure ReadersFit (fuel : Nat) : Prop where
  value : ∀ {depth cs v rest}, value? fuel depth cs = some (v, rest) → v.Fits
  items : ∀ {depth items cs v rest}, (∀ i ∈ items, i.Fits) →
    items? fuel depth items cs = some (v, rest) → v.Fits
  members : ∀ {depth entries cs v rest}, Entries.Fits entries →
    members? fuel depth entries cs = some (v, rest) → v.Fits

/-- A value is a string, opens an array or a table, or is read as a bare value. -/
theorem ReadersFit.value_succ (ih : ReadersFit fuel)
    (h : value? (fuel + 1) depth cs = some (v, rest)) : v.Fits := by
  unfold value? at h
  split at h
  · obtain ⟨r, -, heq⟩ := Option.map_eq_some_iff.mp h
    cases heq
    exact .string _
  · split at h
    · split at h
      · exact ih.items (fun _ h => absurd h List.not_mem_nil) h
      · cases h
    · split at h
      · split at h
        · cases h
          exact .table Entries.fits_nil
        · exact ih.members Entries.fits_nil h
      · cases h
    · exact Scalar.fits_read? h

theorem ReadersFit.items_succ {items : List Value} (ih : ReadersFit fuel)
    (hitems : ∀ i ∈ items, i.Fits) (h : items? (fuel + 1) depth items cs = some (v, rest)) :
    v.Fits := by
  unfold items? at h
  split at h
  · cases h
    exact .array fun v hv => hitems v (List.mem_reverse.mp hv)
  · split at h
    · cases h
    · next v cs hv =>
      have hall : ∀ i ∈ v :: _, i.Fits := List.forall_mem_cons.mpr ⟨ih.value hv, hitems⟩
      split at h
      · exact ih.items hall h
      · cases h
        exact .array fun v hv => hall v (List.mem_reverse.mp hv)
      · cases h

/-- A member goes where its key leads, which may be a table further in. -/
theorem ReadersFit.members_succ (ih : ReadersFit fuel) (hes : es.Fits)
    (h : members? (fuel + 1) depth es cs = some (v, rest)) : v.Fits := by
  unfold members? at h
  split at h
  · split at h
    · cases h
    · next v cs hv =>
      split at h
      · cases h
      · next entries' hinsert =>
        have hall := hes.insert? (ih.value hv) hinsert
        split at h
        · exact ih.members hall h
        · cases h
          exact .table hall
        · cases h
  · cases h

/-- **Whatever the readers read fits.** They call each other with less fuel, so the induction is on
the fuel, for the three of them together. -/
theorem readersFit (fuel : Nat) : ReadersFit fuel := by
  induction fuel with
  | zero =>
    refine ⟨fun h => ?_, fun _ h => ?_, fun _ h => ?_⟩
    all_goals cases h
  | succ fuel ih => exact ⟨ih.value_succ, ih.items_succ, ih.members_succ⟩

/-! ## Documents -/

namespace Document

variable {d d' : Document}

theorem fits_insert? (hd : d.root.Fits) (hv : v.Fits) (h : d.insert? path key v = some d') :
    d'.root.Fits := by
  obtain ⟨root, hroot, rfl⟩ := Option.map_eq_some_iff.mp h
  exact hd.updateAt (fun _ _ _ hes hinsert => hes.insert? hv hinsert) hroot

theorem fits_header? (hd : d.root.Fits) (h : d.header? path key = some d') : d'.root.Fits := by
  obtain ⟨root, hroot, rfl⟩ := Option.map_eq_some_iff.mp h
  exact hd.updateAt (fun _ _ _ hes hdefine => hes.define? hdefine) hroot

theorem fits_element? (hd : d.root.Fits) (h : d.element? path key = some d') : d'.root.Fits := by
  obtain ⟨root, hroot, rfl⟩ := Option.map_eq_some_iff.mp h
  exact hd.updateAt (fun _ _ _ hes happend => hes.append? happend) hroot

end Document

/-- **Each statement keeps what fits.** There is one case for each kind of line. -/
theorem fits_statement? {d d' : Document} (hd : d.root.Fits)
    (h : statement? fuel d cs = some (d', rest)) : d'.root.Fits := by
  unfold statement? at h
  split at h
  · split at h
    · obtain ⟨d'', hd'', heq⟩ := Option.map_eq_some_iff.mp h
      cases heq
      exact Document.fits_element? hd hd''
    · cases h
  · split at h
    · obtain ⟨d'', hd'', heq⟩ := Option.map_eq_some_iff.mp h
      cases heq
      exact Document.fits_header? hd hd''
    · cases h
  · split at h
    · split at h
      · cases h
      · next v cs hv =>
        obtain ⟨d'', hd'', heq⟩ := Option.map_eq_some_iff.mp h
        cases heq
        -- only this kind of line has a value
        exact Document.fits_insert? hd ((readersFit fuel).value hv) hd''
    · cases h

/-- Each line keeps what fits. Induction on the fuel, one unit of which each line takes. -/
theorem fits_lines? {d d' : Document} (hd : d.root.Fits) (h : lines? fuel d cs = some d') :
    d'.root.Fits := by
  induction fuel generalizing d cs with
  | zero =>
    cases cs with
    | nil =>
      obtain rfl := Option.some.inj h
      exact hd
    | cons => cases h
  | succ fuel ih =>
    cases cs with
    | nil =>
      obtain rfl := Option.some.inj h
      exact hd
    | cons c cs =>
      unfold lines? at h
      split at h
      · exact ih hd h
      · split at h
        · cases h
        · next hstatement =>
          split at h
          · exact ih (fits_statement? hd hstatement) h
          · cases h

/-- **The integers of a document fit 64 bits with a sign.** -/
theorem fits_parse? {s : String} (h : parse? s = some es) : es.Fits := by
  obtain ⟨d, hd, rfl⟩ := Option.map_eq_some_iff.mp h
  exact fits_lines? Entries.fits_nil hd

end Tuner.Toml
