import Mathlib.Data.Finset.Card
import Tuner.Deck.History

/-!
# Which list of stations resolves a wish

While a wish is pending, a new list of stations is compared with the list that it replaces. The
comparison is meant to be one of identifiers: those of the new list without those of the list
before, as sets. If the difference is a single identifier, that is the station that was made.

The deck counts the new *entries* instead. `exists_added_eq_singleton_iff` says what the two have to
do with each other: there is a single new entry where the difference is a single identifier and no
second entry of the new list repeats it. How often the other identifiers occur, and the order of
the lists, make no difference. `correlated` is the law for the deck, and `not_correlated` the list
at which the deck misses the station that was made.
-/

namespace Tuner.Deck

/-- The identifiers that occur in a list of stations and not in the list before. -/
def newIds (before list : List Station) : Finset String :=
  (list.map (·.id)).toFinset \ (before.map (·.id)).toFinset

/-- A deck with a station for its wish: the user is asked about the station, and told of it. -/
structure Resolved (now : Moment) (d after : Deck) (s : Station) : Prop where
  prompt : after.newStation = some s
  pending : after.pendingCreation = none
  notices : after.notices = d.notices.push now s!"Created station \"{s.name}\"" .success

/-- A deck with the wish and the prompt of the deck before, and with nothing told to the user. -/
structure LeftOpen (d after : Deck) : Prop where
  prompt : after.newStation = d.newStation
  pending : after.pendingCreation = d.pendingCreation
  notices : after.notices = d.notices

variable {now : Moment} {d : Deck} {before list : List Station} {id : String}

/-! ## New entries and new identifiers -/

/-- An entry is new by its identifier, so the new entries can be told from the identifiers. -/
theorem map_id_added (before list : List Station) :
    (added before list).map (·.id) =
      (list.map (·.id)).filter (· ∉ before.map (·.id)) := by
  rw [added, List.filter_map]
  congr 1
  refine List.filter_congr fun s _ => ?_
  rw [Bool.eq_iff_iff]
  simp

/-- As a set, the identifiers of the new entries are the new identifiers. -/
theorem toFinset_added (before list : List Station) :
    ((added before list).map (·.id)).toFinset = newIds before list := by
  ext id
  rw [map_id_added, newIds]
  simp

/-- A new identifier occurs among the new entries as often as in the list. -/
theorem count_added (h : id ∈ newIds before list) :
    ((added before list).map (·.id)).count id = (list.map (·.id)).count id := by
  have hnew : id ∉ before.map (·.id) := by
    rw [newIds, Finset.mem_sdiff, List.mem_toFinset, List.mem_toFinset] at h
    exact h.2
  rw [map_id_added, List.count_filter (by simpa using hnew)]

/-- A list with one element is a list with one value that occurs once. -/
theorem length_eq_one_iff_toFinset (ids : List String) :
    ids.length = 1 ↔ ∃ id, ids.toFinset = {id} ∧ ids.count id = 1 := by
  constructor
  · intro h
    obtain ⟨id, rfl⟩ := List.length_eq_one_iff.mp h
    exact ⟨id, rfl, List.count_singleton_self⟩
  · rintro ⟨id, hset, hcount⟩
    -- With a single value the list is that value over and over, so its length is the count.
    have hall : ∀ other ∈ ids, id = other := by
      intro other hother
      have hmem : other ∈ ({id} : Finset String) := hset ▸ List.mem_toFinset.mpr hother
      exact (Finset.mem_singleton.mp hmem).symm
    rw [← hcount]
    exact (List.count_eq_length.mpr hall).symm

/-- **A single new entry is a single new identifier that no second entry repeats.** -/
theorem exists_added_eq_singleton_iff (before list : List Station) :
    (∃ s, added before list = [s]) ↔
      ∃ id, newIds before list = {id} ∧ (list.map (·.id)).count id = 1 := by
  calc (∃ s, added before list = [s])
      ↔ ((added before list).map (·.id)).length = 1 := by
        rw [List.length_map, List.length_eq_one_iff]
    _ ↔ ∃ id, newIds before list = {id} ∧
          ((added before list).map (·.id)).count id = 1 := by
        rw [length_eq_one_iff_toFinset, toFinset_added]
    _ ↔ ∃ id, newIds before list = {id} ∧ (list.map (·.id)).count id = 1 := by
        refine exists_congr fun id => and_congr_right fun hset => ?_
        rw [count_added (hset ▸ Finset.mem_singleton_self id)]

/-- Where no identifier of a list is repeated, it is enough to count the new ones. -/
theorem exists_newIds_iff_card (hdistinct : (list.map (·.id)).Nodup) :
    (∃ id, newIds before list = {id} ∧ (list.map (·.id)).count id = 1) ↔
      (newIds before list).card = 1 := by
  rw [Finset.card_eq_one]
  refine exists_congr fun id => and_iff_left_of_imp fun hset => ?_
  have hmem : id ∈ newIds before list := by
    rw [hset]
    exact Finset.mem_singleton_self id
  rw [newIds, Finset.mem_sdiff, List.mem_toFinset] at hmem
  exact List.count_eq_one_of_mem hdistinct hmem.1

/-! ## The list that arrives -/

/-- While a wish is pending, a list of stations resolves it or leaves it open. -/
theorem onStations_cases (now : Moment) (list : List Station) (hwish : d.pendingCreation.isSome) :
    (∃ s, added d.stations list = [s] ∧ Resolved now d (d.onStations now list) s) ∨
      (¬ ∃ s, added d.stations list = [s]) ∧ LeftOpen d (d.onStations now list) := by
  obtain ⟨kind, hkind⟩ := Option.isSome_iff_exists.mp hwish
  unfold onStations
  dsimp only
  split
  · rename_i s _ hadded
    exact Or.inl ⟨s, hadded, rfl, rfl, rfl⟩
  · -- the list adds no entry, or several
    rename_i hother
    refine Or.inr ⟨?_, rfl, rfl, rfl⟩
    rintro ⟨s, hadded⟩
    exact hother kind s hkind hadded

theorem LeftOpen.not_resolved {after : Deck} (h : LeftOpen d after)
    (hwish : d.pendingCreation.isSome) (s : Station) : ¬ Resolved now d after s := by
  intro hresolved
  rw [← h.pending, hresolved.pending] at hwish
  cases hwish

/-- The station that resolves a wish is the single new entry. -/
theorem resolved_iff_added (hwish : d.pendingCreation.isSome) (s : Station) :
    Resolved now d (d.onStations now list) s ↔ added d.stations list = [s] := by
  rcases onStations_cases now list hwish with ⟨t, hadded, hresolved⟩ | ⟨hnone, hopen⟩
  · rw [hadded]
    constructor
    · intro h
      have hsame : s = t := Option.some.inj (h.prompt.symm.trans hresolved.prompt)
      rw [hsame]
    · intro h
      rwa [← List.singleton_inj.mp h]
  · exact iff_of_false (hopen.not_resolved hwish s) fun hadded => hnone ⟨s, hadded⟩

/-- What is to be said of a list of stations that arrives while a wish is pending. -/
structure Correlated (now : Moment) (d : Deck) (list : List Station) : Prop where
  /-- The wish is resolved if a single identifier is new and no second entry repeats it. -/
  resolved_iff : (∃ s, Resolved now d (d.step now (.event (.stations list))) s) ↔
    ∃ id, newIds d.stations list = {id} ∧ (list.map (·.id)).count id = 1
  /-- In a list without repetitions it is the set of new identifiers alone that decides. -/
  distinct : (list.map (·.id)).Nodup →
    ((∃ s, Resolved now d (d.step now (.event (.stations list))) s) ↔
      (newIds d.stations list).card = 1)
  /-- The user is asked about the entry with the new identifier. -/
  prompted : ∀ s, Resolved now d (d.step now (.event (.stations list))) s →
    s ∈ list ∧ newIds d.stations list = {s.id}
  /-- A wish that is not resolved stays as it was, and so does the prompt. -/
  unresolved : (¬ ∃ s, Resolved now d (d.step now (.event (.stations list))) s) →
    LeftOpen d (d.step now (.event (.stations list)))

/-- **A list of stations resolves a wish if it has one new identifier, in one entry.** -/
theorem correlated (now : Moment) (d : Deck) (list : List Station)
    (hwish : d.pendingCreation.isSome) : Correlated now d list := by
  have hresolved : (∃ s, Resolved now d (d.onStations now list) s) ↔
      ∃ id, newIds d.stations list = {id} ∧ (list.map (·.id)).count id = 1 :=
    (exists_congr (resolved_iff_added hwish)).trans (exists_added_eq_singleton_iff d.stations list)
  refine ⟨hresolved, fun hdistinct => ?_, fun s h => ?_, fun hnone => ?_⟩
  · exact hresolved.trans (exists_newIds_iff_card hdistinct)
  · have hadded : added d.stations list = [s] := (resolved_iff_added hwish s).mp h
    constructor
    · have hmem : s ∈ added d.stations list := by
        rw [hadded]
        exact List.mem_singleton_self s
      exact List.mem_of_mem_filter hmem
    · rw [← toFinset_added, hadded]
      rfl
  · rcases onStations_cases now list hwish with ⟨s, _, h⟩ | ⟨_, hopen⟩
    · exact absurd ⟨s, h⟩ hnone
    · exact hopen

/-- Stations that were there before may change places and occur twice. -/
theorem correlated_reordered :
    let d := (new 6 4000000000).run [(0, .event (.stations [{ id := "b" }, { id := "c" }])),
      (1, .intent (.create (.fromSearch "m")))]
    let list : List Station := [{ id := "c" }, { id := "a" }, { id := "c" }, { id := "b" }]
    d.pendingCreation.isSome ∧ newIds d.stations list = {"a"} ∧
      ∃ s, Resolved 2 d (d.step 2 (.event (.stations list))) s := by
  intro d list
  have hwish : d.pendingCreation.isSome := rfl
  have hids : newIds d.stations list = {"a"} := by decide
  exact ⟨hwish, hids, (correlated 2 d list hwish).resolved_iff.mpr ⟨"a", hids, by decide⟩⟩

/-- A new identifier that occurs twice does not resolve the wish, though no other is new. -/
theorem not_correlated :
    let d := (new 6 4000000000).run [(0, .intent (.create (.fromSearch "m")))]
    let list : List Station := [{ id := "a" }, { id := "a" }]
    d.pendingCreation.isSome ∧ newIds d.stations list = {"a"} ∧
      ¬ ∃ s, Resolved 1 d (d.step 1 (.event (.stations list))) s := by
  intro d list
  refine ⟨rfl, by decide, ?_⟩
  rintro ⟨s, hresolved⟩
  cases hresolved.pending

end Tuner.Deck
