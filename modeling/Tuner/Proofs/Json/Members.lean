import Tuner.Json.Basic

/-!
# Members of objects

What is found in an object. `insertMember` sorts the members, and none of that shows in what a key
leads to: after an insertion the key leads to the new value and every other key to what it led to.
So an object that is built of members with different keys has exactly these members. `eraseMember`
takes a key out again.
-/

namespace Tuner

variable {α : Type} {key other : String} {value : α} {members : List (String × α)}

@[simp] theorem findMember?_nil : findMember? key ([] : List (String × α)) = none := rfl

/-- The first member with a key is the one that is found. -/
theorem findMember?_cons (m : String × α) :
    findMember? key (m :: members) = if m.1 = key then some m.2 else findMember? key members := by
  by_cases h : m.1 = key <;> simp [findMember?, h]

theorem findMember?_eq_none (h : key ∉ members.map (·.1)) : findMember? key members = none := by
  rw [findMember?, Option.map_eq_none_iff, List.find?_eq_none]
  intro m hm heq
  exact h (List.mem_map.mpr ⟨m, hm, by simpa using heq⟩)

theorem mem_of_findMember? (h : findMember? key members = some value) : (key, value) ∈ members := by
  obtain ⟨m, hfind, rfl⟩ := Option.map_eq_some_iff.mp h
  have hkey : m.1 = key := by simpa using List.find?_some hfind
  exact hkey ▸ List.mem_of_find?_eq_some hfind

/-- A member with a key of its own is found. -/
theorem findMember?_of_mem (hdistinct : (members.map (·.1)).Nodup) (h : (key, value) ∈ members) :
    findMember? key members = some value := by
  induction members with
  | nil => cases h
  | cons m rest ih =>
    obtain ⟨hhead, hrest⟩ := List.nodup_cons.mp hdistinct
    rw [findMember?_cons]
    rcases List.mem_cons.mp h with rfl | h
    · rw [if_pos rfl]
    · have hne : m.1 ≠ key := by
        rintro rfl
        exact hhead (List.mem_map.mpr ⟨_, h, rfl⟩)
      rw [if_neg hne, ih hrest h]

/-! ## Insertion -/

/-- **An insertion is seen at its key and nowhere else.** -/
theorem findMember?_insertMember :
    findMember? other (insertMember key value members) =
      if key = other then some value else findMember? other members := by
  induction members with
  | nil => rw [insertMember, findMember?_cons]
  | cons m rest ih =>
    obtain ⟨k, v⟩ := m
    rw [insertMember]
    split
    · rw [findMember?_cons]
    · split
      · next hsame =>
        subst hsame
        by_cases hother : key = other <;> simp [findMember?_cons, hother]
      · next hne =>
        rw [findMember?_cons, findMember?_cons, ih]
        -- The first key and the one that is set cannot both be the one that is looked for.
        by_cases hk : k = other
        · have hkey : ¬ key = other := fun h => hne (h.trans hk.symm)
          simp [hk, hkey]
        · simp [hk]

/-- Members are inserted one after another, over those that were there before. Induction on the new
members, none of which hides another one. -/
theorem findMember?_foldl_insertMember {start : List (String × α)}
    (hdistinct : (members.map (·.1)).Nodup) :
    findMember? key (members.foldl (fun ms m => insertMember m.1 m.2 ms) start) =
      (findMember? key members).or (findMember? key start) := by
  induction members generalizing start with
  | nil => rfl
  | cons m rest ih =>
    obtain ⟨hhead, hrest⟩ := List.nodup_cons.mp hdistinct
    rw [List.foldl_cons, ih hrest, findMember?_insertMember, findMember?_cons]
    by_cases hm : m.1 = key
    · -- no later member has the key of this one
      rw [if_pos hm, if_pos hm, findMember?_eq_none (hm ▸ hhead)]
      rfl
    · rw [if_neg hm, if_neg hm]

/-- **An object has the members it was built of.** -/
theorem findMember?_sorted (hdistinct : (members.map (·.1)).Nodup) :
    findMember? key (members.foldl (fun ms m => insertMember m.1 m.2 ms) []) =
      findMember? key members := by
  rw [findMember?_foldl_insertMember hdistinct, findMember?_nil, Option.or_none]

theorem findMember?_sorted_of_mem (h : (key, value) ∈ members)
    (hdistinct : (members.map (·.1)).Nodup) :
    findMember? key (members.foldl (fun ms m => insertMember m.1 m.2 ms) []) = some value :=
  (findMember?_sorted hdistinct).trans (findMember?_of_mem hdistinct h)

/-! ## Erasure -/

/-- The members without a key. -/
def eraseMember (key : String) (members : List (String × α)) : List (String × α) :=
  members.filter (·.1 ≠ key)

theorem eraseMember_cons (m : String × α) :
    eraseMember key (m :: members) =
      if m.1 = key then eraseMember key members else m :: eraseMember key members := by
  by_cases h : m.1 = key <;> simp [eraseMember, h]

/-- An erasure takes away its key and nothing else. -/
theorem findMember?_eraseMember :
    findMember? other (eraseMember key members) =
      if key = other then none else findMember? other members := by
  induction members with
  | nil => simp [eraseMember]
  | cons m rest ih =>
    rw [eraseMember_cons]
    by_cases hm : m.1 = key
    · rw [if_pos hm, ih, findMember?_cons, hm]
      by_cases hother : key = other <;> simp [hother]
    · rw [if_neg hm, findMember?_cons, findMember?_cons, ih]
      -- a member that stays has another key than the one that is erased
      by_cases hother : m.1 = other
      · have hkey : key ≠ other := fun h => hm (hother.trans h.symm)
        simp [hother, hkey]
      · simp [hother]

end Tuner
