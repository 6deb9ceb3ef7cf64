import Tuner.Json.Basic
import Tuner.Word

/-!
# The shape of JSON values

Three things of a value decide whether its text reads back, besides the characters of its strings:

* **`Json.depth`** — how many containers are inside one another, counting the outermost. The
  reader refuses what is nested too deeply, so the depth decides whether a text is read at all.
* **`Json.numbers`** — the numbers that stand anywhere in a value. Each is read by rules of its own,
  so a law about all values has to ask something of each of its numbers.
* **`Json.Ordered`** — the members of every object stand in rising order of their keys, and so no
  key is repeated. `insertMember` keeps that order (`rising_insertMember`), which is why every value
  that is read has it.

Laws about values are proved by `Json.induction`, which hands the hypothesis over for every item of
an array and every member of an object.
-/

namespace Tuner

/-- A number that the reader can produce, as far as its size goes: an integer fits 64 bits with or
without a sign. Of a double nothing is asked. -/
def Number.InRange : Number → Prop
  | .integer n => -(Word.signedLimit : Int) ≤ n ∧ n < Word.limit
  | .double _ => True

/-- The members stand in rising order of their keys. -/
def Rising (members : List (String × Json)) : Prop :=
  members.Pairwise (·.1 < ·.1)

namespace Json

/-! ## Depth and numbers -/

mutual

/-- How many containers are inside one another, counting the outermost. -/
def depth : Json → Nat
  | .null => 0
  | .bool _ => 0
  | .number _ => 0
  | .string _ => 0
  | .array items => itemsDepth items + 1
  | .object members => membersDepth members + 1

def itemsDepth : List Json → Nat
  | [] => 0
  | v :: rest => max v.depth (itemsDepth rest)

def membersDepth : List (String × Json) → Nat
  | [] => 0
  | (_, v) :: rest => max v.depth (membersDepth rest)

end

mutual

/-- The numbers that stand in a value, in the order of its text. -/
def numbers : Json → List Number
  | .null => []
  | .bool _ => []
  | .number n => [n]
  | .string _ => []
  | .array items => itemNumbers items
  | .object members => memberNumbers members

def itemNumbers : List Json → List Number
  | [] => []
  | v :: rest => v.numbers ++ itemNumbers rest

def memberNumbers : List (String × Json) → List Number
  | [] => []
  | (_, v) :: rest => v.numbers ++ memberNumbers rest

end

/-- Every object inside a value has its members in rising order of their keys. This is the one
written form of an object, whose members have no order of their own. -/
inductive Ordered : Json → Prop where
  | null : Ordered .null
  | bool (b : Bool) : Ordered (.bool b)
  | number (n : Number) : Ordered (.number n)
  | string (s : String) : Ordered (.string s)
  | array {items : List Json} (hitems : ∀ v ∈ items, Ordered v) : Ordered (.array items)
  | object {members : List (String × Json)} (hkeys : Rising members)
      (hmembers : ∀ m ∈ members, Ordered m.2) : Ordered (.object members)

/-! ## Induction over values

The recursor of the type speaks of lists of values beside values. Here the lists are gone: what is
known of an array's items and of an object's members is known of each of them. -/

/-- **Induction over values.** -/
@[elab_as_elim]
theorem induction {motive : Json → Prop} (null : motive .null) (bool : ∀ b, motive (.bool b))
    (number : ∀ n, motive (.number n)) (string : ∀ s, motive (.string s))
    (array : ∀ items, (∀ v ∈ items, motive v) → motive (.array items))
    (object : ∀ members, (∀ m ∈ members, motive m.2) → motive (.object members)) (v : Json) :
    motive v := by
  refine @Json.rec motive (fun items => ∀ v ∈ items, motive v)
    (fun members => ∀ m ∈ members, motive m.2) (fun m => motive m.2)
    null bool number string array object ?_ ?_ ?_ ?_ ?_ v
  · simp
  · intro v rest hv hrest
    simpa using ⟨hv, hrest⟩
  · simp
  · intro m rest hm hrest
    exact List.forall_mem_cons.mpr ⟨hm, hrest⟩
  · intro _ _ hv
    exact hv

/-! ## What the parts of a value inherit -/

/-- A bound on the depth of a list is one on the depth of each item. -/
theorem itemsDepth_le {items : List Json} {k : Nat} :
    itemsDepth items ≤ k ↔ ∀ v ∈ items, v.depth ≤ k := by
  induction items with
  | nil => simp [itemsDepth]
  | cons v rest ih => rw [itemsDepth, Nat.max_le, ih, List.forall_mem_cons]

theorem membersDepth_le {members : List (String × Json)} {k : Nat} :
    membersDepth members ≤ k ↔ ∀ m ∈ members, m.2.depth ≤ k := by
  induction members with
  | nil => simp [membersDepth]
  | cons m rest ih =>
    obtain ⟨_, v⟩ := m
    rw [membersDepth, Nat.max_le, ih, List.forall_mem_cons]

/-- An array below `level` containers stays within a bound exactly if there is room for the array
itself and its items stay within the bound one level further down. -/
theorem depth_array_le {items : List Json} {level bound : Nat} :
    level + depth (.array items) ≤ bound ↔
      level < bound ∧ ∀ v ∈ items, level + 1 + v.depth ≤ bound := by
  have hroom : level + (itemsDepth items + 1) ≤ bound ↔
      level < bound ∧ itemsDepth items ≤ bound - (level + 1) := by omega
  rw [depth, hroom, itemsDepth_le]
  refine and_congr_right fun hlevel => forall_congr' fun v => imp_congr_right fun _ => ?_
  omega

theorem depth_object_le {members : List (String × Json)} {level bound : Nat} :
    level + depth (.object members) ≤ bound ↔
      level < bound ∧ ∀ m ∈ members, level + 1 + m.2.depth ≤ bound := by
  have hroom : level + (membersDepth members + 1) ≤ bound ↔
      level < bound ∧ membersDepth members ≤ bound - (level + 1) := by omega
  rw [depth, hroom, membersDepth_le]
  refine and_congr_right fun hlevel => forall_congr' fun m => imp_congr_right fun _ => ?_
  omega

theorem mem_itemNumbers {items : List Json} {n : Number} :
    n ∈ itemNumbers items ↔ ∃ v ∈ items, n ∈ v.numbers := by
  induction items with
  | nil => simp [itemNumbers]
  | cons v rest ih => simp [itemNumbers, ih]

theorem mem_memberNumbers {members : List (String × Json)} {n : Number} :
    n ∈ memberNumbers members ↔ ∃ m ∈ members, n ∈ m.2.numbers := by
  induction members with
  | nil => simp [memberNumbers]
  | cons m rest ih =>
    obtain ⟨_, v⟩ := m
    simp [memberNumbers, ih]

end Json

/-! ## Members in order -/

/-- A key behind all others is appended. -/
theorem insertMember_of_all_lt {key : String} {value : Json} {members : List (String × Json)}
    (h : ∀ m ∈ members, m.1 < key) :
    insertMember key value members = members ++ [(key, value)] := by
  induction members with
  | nil => rfl
  | cons m rest ih =>
    obtain ⟨k, v⟩ := m
    have hk : k < key := h (k, v) List.mem_cons_self
    have hne : ¬ key = k := fun heq => String.lt_irrefl k (heq ▸ hk)
    rw [insertMember, if_neg (String.lt_asymm hk), if_neg hne,
      ih fun m hm => h m (List.mem_cons_of_mem _ hm), List.cons_append]

/-- An insertion adds one member at most. -/
theorem mem_of_mem_insertMember {key : String} {value : Json} {members : List (String × Json)}
    {m : String × Json} (h : m ∈ insertMember key value members) :
    m = (key, value) ∨ m ∈ members := by
  induction members with
  | nil => simpa [insertMember] using h
  | cons m' rest ih =>
    obtain ⟨k, v⟩ := m'
    rw [insertMember] at h
    split at h
    · simpa using h
    · split at h
      · rcases List.mem_cons.mp h with heq | hrest
        · exact Or.inl heq
        · exact Or.inr (List.mem_cons_of_mem _ hrest)
      · rcases List.mem_cons.mp h with heq | hins
        · exact Or.inr (heq ▸ List.mem_cons_self)
        · exact (ih hins).imp_right (List.mem_cons_of_mem _)

/-- **Insertion keeps the order.** -/
theorem rising_insertMember {key : String} {value : Json} {members : List (String × Json)}
    (h : Rising members) : Rising (insertMember key value members) := by
  induction members with
  | nil => simp [insertMember, Rising]
  | cons m rest ih =>
    obtain ⟨k, v⟩ := m
    obtain ⟨hhead, hrest⟩ := List.pairwise_cons.mp h
    rw [insertMember]
    split
    · -- in front: the key is below the first one, and so below all
      next hlt =>
        refine List.pairwise_cons.mpr ⟨fun m hm => ?_, h⟩
        rcases List.mem_cons.mp hm with rfl | hm
        · exact hlt
        · exact String.lt_trans hlt (hhead m hm)
    · next hnlt =>
      split
      · next heq =>
        subst heq
        exact List.pairwise_cons.mpr ⟨hhead, hrest⟩
      · -- further down: the first key is below the new one
        next hne =>
          have hlt : k < key := by
            refine Std.lt_of_le_of_ne (String.not_lt.mp hnlt) fun heq => hne heq.symm
          refine List.pairwise_cons.mpr ⟨fun m hm => ?_, ih hrest⟩
          rcases mem_of_mem_insertMember hm with rfl | hm
          · exact hlt
          · exact hhead m hm

end Tuner
