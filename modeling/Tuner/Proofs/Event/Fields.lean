import Mathlib.Data.List.Forall2
import Tuner.Event.Payload
import Tuner.Proofs.Decimal.Whole
import Tuner.Proofs.Json.Members
import Tuner.Proofs.Json.Shape

/-!
# Fields of records

Two things are to be known of the fields of a record before anything is said of single records.

* **A record that was written gives its fields back.** It has each field under the first of the
  field's names. `Writes` says when that is enough: no key occurs twice, and no key is a second name
  of a field, for then the field would be there under two names.
* **What is read was in the value.** `Json.IsProper` is what can be asked of the numbers in a value,
  and the values of the fields have it if the record has it. So the quantities that are read are
  finite, whether they were sent as doubles or as integers.
-/

namespace Tuner

open Json

section Lists

variable {α β : Type} {f : α → Option β} {as : List α} {bs : List β} {b : β}

/-- A list is read if each of its items is. -/
theorem mapM_eq_some_iff :
    as.mapM f = some bs ↔ List.Forall₂ (fun a b => f a = some b) as bs := by
  induction as generalizing bs with
  | nil => cases bs <;> simp
  | cons a as ih =>
    -- one item is read and then the rest, and each may fail
    cases bs with
    | nil => simp [List.mapM_cons, Option.bind_eq_some_iff]
    | cons b bs => simp [List.mapM_cons, Option.bind_eq_some_iff, ← ih]

theorem exists_of_mem_mapM (h : as.mapM f = some bs) (hb : b ∈ bs) : ∃ a ∈ as, f a = some b := by
  replace h := mapM_eq_some_iff.mp h
  induction h with
  | nil => cases hb
  | cons hhead _ ih =>
    rcases List.mem_cons.mp hb with rfl | hb
    · exact ⟨_, List.mem_cons_self, hhead⟩
    · obtain ⟨a, ha, hread⟩ := ih hb
      exact ⟨a, List.mem_cons_of_mem _ ha, hread⟩

end Lists

/-! ## Records that were written -/

namespace Payload

/-- The keys of a written record: the first names of its fields in order, perhaps with keys of other
things behind them. -/
structure Writes (names : List (List String)) (keys : List String) : Prop where
  first : names.map List.head? = (keys.take names.length).map some
  distinct : keys.Nodup
  aliases : ∀ ns ∈ names, ∀ other ∈ ns.tail, other ∉ keys

variable {names : List (List String)} {keys : List String} {members : List (String × Json)}

instance : Decidable (Writes names keys) :=
  decidable_of_iff
    (names.map List.head? = (keys.take names.length).map some ∧ keys.Nodup ∧
      ∀ ns ∈ names, ∀ other ∈ ns.tail, other ∉ keys)
    ⟨fun ⟨hfirst, hdistinct, haliases⟩ => ⟨hfirst, hdistinct, haliases⟩,
      fun h => ⟨h.first, h.distinct, h.aliases⟩⟩

/-- A field that is there under its first name, and under no other one, is read. -/
theorem value?_of_head {ns : List String} {key : String} {v : Json} (hfirst : ns.head? = some key)
    (hkey : findMember? key members = some v)
    (haliases : ∀ other ∈ ns.tail, findMember? other members = none) :
    value? members ns = some (some v) := by
  cases ns with
  | nil => cases hfirst
  | cons first rest =>
    obtain rfl : first = key := Option.some.inj hfirst
    have hrest : rest.filterMap (findMember? · members) = [] :=
      List.filterMap_eq_nil_iff.mpr haliases
    rw [value?, List.filterMap_cons, hkey, hrest]

/-- **A written record has the values that were written.** -/
theorem fields?_ofMembers (hwrites : Writes names keys) (hkeys : members.map (·.1) = keys) :
    fields? names (ofMembers members) =
      some ((members.take names.length).map fun m => some m.2) := by
  subst hkeys
  obtain ⟨hfirst, hdistinct, haliases⟩ := hwrites
  have hheads : List.Forall₂ (fun ns m => ns.head? = some m.1) names
      (members.take names.length) := by
    have heq : names.map List.head? = (members.take names.length).map fun m => some m.1 := by
      rw [hfirst, ← List.map_take, List.map_map]
      rfl
    rw [← List.forall₂_eq_eq_eq, List.forall₂_map_left_iff, List.forall₂_map_right_iff] at heq
    exact heq
  obtain ⟨hlength, hzip⟩ := List.forall₂_iff_zip.mp hheads
  -- each field is looked up by itself: its first name is the key at its own place
  refine mapM_eq_some_iff.mpr (List.forall₂_map_right_iff.mpr ?_)
  refine List.forall₂_iff_zip.mpr ⟨hlength, fun {ns m} hmem => ?_⟩
  obtain ⟨hns, hm⟩ := List.of_mem_zip hmem
  refine value?_of_head (hzip hmem) ?_ fun other hother => ?_
  · exact findMember?_sorted_of_mem (List.mem_of_mem_take hm) hdistinct
  · rw [findMember?_sorted hdistinct]
    exact findMember?_eq_none (haliases ns hns other hother)

section Values

variable {α : Type} {read : Json → Option α} {write : α → Json} {v : Json} {a : α} {x : Float}

/-- A list of records is read back if each record is. -/
theorem list?_map {list : List α} (h : ∀ a ∈ list, read (write a) = some a) :
    list? read (.array (list.map write)) = some list := by
  refine mapM_eq_some_iff.mpr (List.forall₂_map_left_iff.mpr ?_)
  exact List.forall₂_same.mpr h

/-- What a reader takes is no null, so it is not taken for absent. -/
theorem orDefault?_some {default : α} (hnull : read .null = none) (h : read v = some a) :
    orDefault? default read (some v) = some a := by
  cases v with
  | null =>
    rw [hnull] at h
    cases h
  | _ => exact h

theorem optional?_some (hnull : read .null = none) (h : read v = some a) :
    optional? read (some v) = some (some a) := by
  have hpresent : (read v).map some = some (some a) := by rw [h, Option.map_some]
  cases v with
  | null =>
    rw [hnull] at h
    cases h
  | _ => exact hpresent

/-- An optional field is written as null if it is absent, and both forms are read back. -/
theorem optional?_ofOption {o : Option α} (hnull : read .null = none)
    (h : ∀ a ∈ o, read (write a) = some a) :
    optional? read (some (ofOption (o.map write))) = some o := by
  cases o with
  | none => rfl
  | some a => exact optional?_some hnull (h a rfl)

@[simp] theorem orDefault?_text {default : String} (s : String) :
    orDefault? default text? (some (.string s)) = some s := rfl

@[simp] theorem orDefault?_flag {default : Bool} (b : Bool) :
    orDefault? default flag? (some (.bool b)) = some b := rfl

@[simp] theorem required?_ident (s : String) :
    required? ident? (some (.string s)) = some s := rfl

@[simp] theorem optional?_text (o : Option String) :
    optional? text? (some (ofOption (o.map .string))) = some o :=
  optional?_ofOption rfl fun _ _ => rfl

@[simp] theorem optional?_ident (o : Option String) :
    optional? ident? (some (ofOption (o.map .string))) = some o :=
  optional?_ofOption rfl fun _ _ => rfl

@[simp] theorem optional?_flag (o : Option Bool) :
    optional? flag? (some (ofOption (o.map .bool))) = some o :=
  optional?_ofOption rfl fun _ _ => rfl

/-- A finite double is read back, as a double: it is not written as an integer. -/
theorem quantity?_ofFloat (h : x.isFinite = true) : quantity? (ofFloat x) = some x := by
  rw [ofFloat, if_pos h]
  rfl

theorem orDefault?_quantity (h : x.isFinite = true) :
    orDefault? 0.0 quantity? (some (ofFloat x)) = some x :=
  orDefault?_some rfl (quantity?_ofFloat h)

theorem optional?_quantity {o : Option Float} (h : ∀ x ∈ o, x.isFinite = true) :
    optional? quantity? (some (ofOption (o.map ofFloat))) = some o :=
  optional?_ofOption rfl fun x hx => quantity?_ofFloat (h x hx)

/-- A count is written as an integer and is in the range that is asked for. -/
theorem count?_ofInt (n : UInt8) : count? (ofInt n.toNat) = some n := by
  have hsmall : n.toNat ≤ 255 := Nat.le_of_lt_succ n.toNat_lt
  rw [ofInt, count?, if_pos ⟨Int.natCast_nonneg _, Int.ofNat_le.mpr hsmall⟩, Int.toNat_natCast,
    UInt8.ofNat_toNat]

end Values

end Payload

/-! ## What is read was in the value -/

/-- A number that a value can hold: an integer of 64 bits or a finite double. -/
structure Number.IsProper (n : Number) : Prop where
  inRange : n.InRange
  finite : ∀ x, n = .double x → x.isFinite = true

/-- Each number in a value is one that a value can hold. -/
def Json.IsProper (v : Json) : Prop :=
  ∀ n ∈ v.numbers, n.IsProper

theorem Json.IsProper.item {items : List Json} {v : Json} (h : (Json.array items).IsProper)
    (hv : v ∈ items) : v.IsProper :=
  fun n hn => h n (mem_itemNumbers.mpr ⟨v, hv, hn⟩)

theorem Json.IsProper.member {members : List (String × Json)} {key : String} {v : Json}
    (h : (Json.object members).IsProper) (hv : findMember? key members = some v) : v.IsProper :=
  fun n hn => h n (mem_memberNumbers.mpr ⟨_, mem_of_findMember? hv, hn⟩)

namespace Payload

variable {names : List (List String)} {members : List (String × Json)}
variable {fields : List (Option Json)} {v w : Json}

/-- The value of a field is under one of the keys of the record. -/
theorem exists_findMember? {ns : List String} (h : value? members ns = some (some v)) :
    ∃ key, findMember? key members = some v := by
  have hmem : v ∈ ns.filterMap (findMember? · members) := by
    unfold value? at h
    split at h
    · cases h
    · next heq =>
      obtain rfl := Option.some.inj (Option.some.inj h)
      rw [heq]
      exact List.mem_singleton_self _
    · cases h
  obtain ⟨key, _, hkey⟩ := List.mem_filterMap.mp hmem
  exact ⟨key, hkey⟩

/-- **The values of the fields are as proper as the record.** -/
theorem isProper_of_fields? (h : fields? names v = some fields) (hv : v.IsProper)
    (hw : some w ∈ fields) : w.IsProper := by
  unfold fields? at h
  split at h
  · -- in an object the value stands under one of the names of its field
    obtain ⟨ns, _, hvalue⟩ := exists_of_mem_mapM h hw
    obtain ⟨key, hkey⟩ := exists_findMember? hvalue
    exact hv.member hkey
  · next items =>
    split at h
    · obtain rfl := Option.some.inj h
      -- What is filled up at the end is absent.
      have hitem : w ∈ items := by simpa using hw
      exact hv.item hitem
    · cases h
  · cases h

/-! ## Quantities -/

variable {x : Float}

/-- A quantity is finite, also if it was sent as an integer. -/
theorem isFinite_of_quantity? (hv : v.IsProper) (h : quantity? v = some x) :
    x.isFinite = true := by
  cases v with
  | number n =>
    have hn : n.IsProper := hv n (List.mem_singleton_self n)
    cases n with
    | integer i =>
      obtain rfl := Option.some.inj h
      -- an integer of 64 bits is far from the largest double
      exact Decimal.isFinite_ofInt hn.inRange
    | double y =>
      obtain rfl := Option.some.inj h
      exact hn.finite y rfl
  | _ => cases h

/-- What is read from a field with a default is the default, or it was there. -/
theorem orDefault?_cases {α : Type} {default a : α} {read : Json → Option α} {field : Option Json}
    (h : orDefault? default read field = some a) :
    a = default ∨ ∃ w, field = some w ∧ read w = some a := by
  unfold orDefault? at h
  split at h
  · exact Or.inl (Option.some.inj h).symm
  · exact Or.inl (Option.some.inj h).symm
  · exact Or.inr ⟨_, rfl, h⟩

/-- What is read from an optional field was there. -/
theorem exists_of_optional? {α : Type} {read : Json → Option α} {field : Option Json} {o : Option α}
    (h : optional? read field = some o) :
    ∀ a ∈ o, ∃ w, field = some w ∧ read w = some a := by
  unfold optional? at h
  split at h
  · obtain rfl := Option.some.inj h
    rintro a ⟨⟩
  · obtain rfl := Option.some.inj h
    rintro a ⟨⟩
  · next w _ =>
    obtain ⟨b, hread, rfl⟩ := Option.map_eq_some_iff.mp h
    rintro a ⟨⟩
    exact ⟨w, rfl, hread⟩

/-- The default of a quantity is zero, which is as finite as what is read. -/
theorem isFinite_of_orDefault? {field : Option Json} (hfields : fields? names v = some fields)
    (hv : v.IsProper) (hmem : field ∈ fields) (h : orDefault? 0.0 quantity? field = some x) :
    x.isFinite = true := by
  rcases orDefault?_cases h with rfl | ⟨w, rfl, hread⟩
  · rfl
  · exact isFinite_of_quantity? (isProper_of_fields? hfields hv hmem) hread

theorem isFinite_of_optional? {field : Option Json} {o : Option Float}
    (hfields : fields? names v = some fields) (hv : v.IsProper) (hmem : field ∈ fields)
    (h : optional? quantity? field = some o) : ∀ x ∈ o, x.isFinite = true := by
  intro x hx
  obtain ⟨w, rfl, hread⟩ := exists_of_optional? h x hx
  exact isFinite_of_quantity? (isProper_of_fields? hfields hv hmem) hread

end Payload

end Tuner
