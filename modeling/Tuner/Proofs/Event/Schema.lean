import Mathlib.Data.List.Nodup
import Mathlib.Logic.Relation
import Tuner.Proofs.Event.Fields

/-!
# What a payload may leave out

A payload is a tree of records, and a `Schema` names the fields of the records at each place of it,
with all the names that a field may go by. `Tidies` is one change at any depth that a lenient reader
does not notice: a key that the record does not have is deleted, a key with the value null is
deleted, or a second name gives way to the first.

A record that has one field under two names is at fault, so the change must not hide or cause that.
`Unambiguous` excludes it, and `Tidies.unambiguous` keeps it excluded. Under that condition
`alike_given` says all that a change does to the fields of a record: each has the value it had, has
lost a null, or holds a value that was itself tidied.
-/

namespace Tuner

open Payload

/-- The records that a kind of value is made of. -/
inductive Schema where
  /-- A value without fields of its own, such as a text or a number. -/
  | plain
  /-- An object. Each field has its names, the proper one first, and the schema of its value. -/
  | record (fields : List (List String × Schema))
  | list (item : Schema)

namespace Schema

abbrev Fields := List (List String × Schema)

/-- A record of plain fields. -/
def flat (names : List (List String)) : Schema :=
  .record (names.map (·, .plain))

/-- The value with nothing in it. -/
def empty : Schema → Json
  | plain => .null
  | record _ => .object []
  | list _ => .array []

/-- At every place each name belongs to one field. -/
inductive Distinct : Schema → Prop where
  | plain : Distinct .plain
  | record {fields : Fields} (hnames : (fields.flatMap (·.1)).Nodup)
      (hfields : ∀ f ∈ fields, Distinct f.2) : Distinct (.record fields)
  | list {item : Schema} (hitem : Distinct item) : Distinct (.list item)

/-- A record with some members stands at its place in a value, the outermost or one further in. -/
inductive Holds : Schema → Json → Fields → List (String × Json) → Prop where
  | here (fields : Fields) (members : List (String × Json)) :
      Holds (.record fields) (.object members) fields members
  | field {fields fields' : Fields} {members members' : List (String × Json)}
      {f : List String × Schema} {key : String} {v : Json} (hf : f ∈ fields) (hkey : key ∈ f.1)
      (hfind : findMember? key members = some v) (hv : Holds f.2 v fields' members') :
      Holds (.record fields) (.object members) fields' members'
  | item {item : Schema} {items : List Json} {fields : Fields} {members : List (String × Json)}
      {v : Json} (hmem : v ∈ items) (hv : Holds item v fields members) :
      Holds (.list item) (.array items) fields members

/-- At most one of some names is a key. -/
def Single (names : List String) (members : List (String × Json)) : Prop :=
  ∀ a ∈ names, ∀ b ∈ names, (findMember? a members).isSome → (findMember? b members).isSome → a = b

instance (names : List String) (members : List (String × Json)) :
    Decidable (Single names members) :=
  inferInstanceAs (Decidable (∀ a ∈ names, ∀ b ∈ names, _ → _ → a = b))

/-- No record has a field under two of its names. -/
def Unambiguous (schema : Schema) (v : Json) : Prop :=
  ∀ fields members, schema.Holds v fields members → ∀ f ∈ fields, Single f.1 members

/-- One change that leaves out what says nothing, or gives a field its proper name. -/
inductive Tidies : Schema → Json → Json → Prop where
  | unknown {fields : Fields} {members : List (String × Json)} (key : String)
      (hunknown : ∀ f ∈ fields, key ∉ f.1) :
      Tidies (.record fields) (.object members) (.object (eraseMember key members))
  | null {fields : Fields} {members : List (String × Json)} (key : String)
      (hnull : findMember? key members = some .null) :
      Tidies (.record fields) (.object members) (.object (eraseMember key members))
  | rename {fields : Fields} {members : List (String × Json)} {name other : String}
      {others : List String} {schema : Schema} {v : Json}
      (hf : (name :: others, schema) ∈ fields) (hother : other ∈ others)
      (hfind : findMember? other members = some v) :
      Tidies (.record fields) (.object members)
        (.object (insertMember name v (eraseMember other members)))
  | field {fields : Fields} {members : List (String × Json)} {f : List String × Schema}
      {key : String} {v w : Json} (hf : f ∈ fields) (hkey : key ∈ f.1)
      (hfind : findMember? key members = some v) (hv : Tidies f.2 v w) :
      Tidies (.record fields) (.object members) (.object (insertMember key w members))
  | item {item : Schema} {items : List Json} {i : Nat} {v w : Json} (hget : items[i]? = some v)
      (hv : Tidies item v w) : Tidies (.list item) (.array items) (.array (items.set i w))

variable {schema elem : Schema} {fields : Fields} {members members' : List (String × Json)}
variable {names : List String} {key : String} {v w : Json} {f g : List String × Schema}

/-! ## Fields -/

/-- In a record of plain fields only the names themselves can clash. -/
theorem distinct_flat {names : List (List String)} (h : names.flatten.Nodup) :
    (flat names).Distinct := by
  refine .record ?_ fun f hf => ?_
  · simpa [List.flatMap_map, List.flatMap_id'] using h
  · obtain ⟨ns, -, rfl⟩ := List.mem_map.mp hf
    exact .plain

/-- A name leads to one field. -/
theorem Distinct.eq_of_name (h : (Schema.record fields).Distinct) (hf : f ∈ fields)
    (hg : g ∈ fields) (hkf : key ∈ f.1) (hkg : key ∈ g.1) : f = g := by
  cases h with
  | record hnames _ =>
    -- two fields with a name in common would have it twice among all names
    by_contra hne
    have hpairwise := (List.nodup_flatMap.mp hnames).2
    have hsymm : Std.Symm (Function.onFun List.Disjoint fun f : List String × Schema => f.1) :=
      ⟨fun _ _ h => List.Disjoint.symm h⟩
    exact hpairwise.forall hf hg hne hkf hkg

theorem Distinct.nodup (h : (Schema.record fields).Distinct) (hf : f ∈ fields) : f.1.Nodup := by
  cases h with
  | record hnames _ => exact (List.nodup_flatMap.mp hnames).1 f hf

theorem Distinct.field (h : (Schema.record fields).Distinct) (hf : f ∈ fields) : f.2.Distinct := by
  cases h with
  | record _ hfields => exact hfields f hf

/-- No field of the record itself has two names. -/
theorem Unambiguous.single (h : (Schema.record fields).Unambiguous (.object members))
    {f : List String × Schema} (hf : f ∈ fields) : Single f.1 members :=
  h fields members (.here fields members) f hf

theorem Unambiguous.field (h : (Schema.record fields).Unambiguous (.object members))
    {f : List String × Schema} (hf : f ∈ fields) (hkey : key ∈ f.1)
    (hfind : findMember? key members = some v) : f.2.Unambiguous v :=
  fun fields' members' hholds => h fields' members' (.field hf hkey hfind hholds)

theorem Unambiguous.item {items : List Json} (h : (Schema.list elem).Unambiguous (.array items))
    (hv : v ∈ items) : elem.Unambiguous v :=
  fun fields members hholds => h fields members (.item hv hholds)

theorem Single.mono (h : Single names members)
    (hless : ∀ a ∈ names, (findMember? a members').isSome → (findMember? a members).isSome) :
    Single names members' :=
  fun a ha b hb ha' hb' => h a ha b hb (hless a ha ha') (hless b hb hb')

/-! ## Changes keep records unambiguous -/

/-- A record is unambiguous if its own fields are, and the records in them. -/
theorem unambiguous_record (hsingle : ∀ f ∈ fields, Single f.1 members)
    (hfields : ∀ f ∈ fields, ∀ key ∈ f.1, ∀ v, findMember? key members = some v →
      f.2.Unambiguous v) : (Schema.record fields).Unambiguous (.object members) := by
  intro fields' members' hholds
  cases hholds with
  | here => exact hsingle
  | field hf hkey hfind h => exact hfields _ hf _ hkey _ hfind fields' members' h

/-- To leave out a key can only take names away. -/
theorem Unambiguous.erase (h : (Schema.record fields).Unambiguous (.object members)) :
    (Schema.record fields).Unambiguous (.object (eraseMember key members)) := by
  have hless : ∀ a v, findMember? a (eraseMember key members) = some v →
      findMember? a members = some v := by
    intro a v hfind
    rw [findMember?_eraseMember] at hfind
    split at hfind
    · cases hfind
    · exact hfind
  refine unambiguous_record (fun f hf => (h.single hf).mono fun a _ ha => ?_) ?_
  · obtain ⟨v, hv⟩ := Option.isSome_iff_exists.mp ha
    rw [hless a v hv]
    rfl
  · intro f hf a ha v hfind
    exact h.field hf ha (hless a v hfind)

/-- The second name of a field is left out when the first one comes in, so it still has one. -/
theorem Unambiguous.rename (hdistinct : (Schema.record fields).Distinct)
    (h : (Schema.record fields).Unambiguous (.object members)) {name other : String}
    {others : List String} (hf : (name :: others, schema) ∈ fields) (hother : other ∈ others)
    (hfind : findMember? other members = some v) :
    (Schema.record fields).Unambiguous
      (.object (insertMember name v (eraseMember other members))) := by
  have hname : name ∈ name :: others := List.mem_cons_self
  have hother' : other ∈ name :: others := List.mem_cons_of_mem _ hother
  refine unambiguous_record (fun g hg => ?_) fun g hg a ha u hu => ?_
  · by_cases hgf : g = (name :: others, schema)
    · -- The field had its value under the second name only, and now has it under the first only.
      subst hgf
      have honly : ∀ a ∈ name :: others,
          (findMember? a (insertMember name v (eraseMember other members))).isSome → a = name := by
        intro a ha hsome
        rw [findMember?_insertMember, findMember?_eraseMember] at hsome
        by_cases han : name = a
        · exact han.symm
        · by_cases hao : other = a
          · simp [han, hao] at hsome
          · rw [if_neg han, if_neg hao] at hsome
            exact absurd (h.single hf a ha other hother' hsome (by simp [hfind])) (Ne.symm hao)
      exact fun a ha b hb hsa hsb => (honly a ha hsa).trans (honly b hb hsb).symm
    · -- any other field goes by neither of the two names
      refine (h.single hg).mono fun a ha hsome => ?_
      have han : name ≠ a := fun heq => hgf (hdistinct.eq_of_name hg hf (heq ▸ ha) hname)
      rw [findMember?_insertMember, findMember?_eraseMember, if_neg han] at hsome
      by_cases hao : other = a
      · simp [hao] at hsome
      · simpa [hao] using hsome
  · rw [findMember?_insertMember, findMember?_eraseMember] at hu
    by_cases han : name = a
    · have hgf : g = (name :: others, schema) := hdistinct.eq_of_name hg hf (han ▸ ha) hname
      rw [if_pos han] at hu
      obtain rfl := Option.some.inj hu
      rw [hgf]
      exact h.field hf hother' hfind
    · by_cases hao : other = a
      · simp [han, hao] at hu
      · rw [if_neg han, if_neg hao] at hu
        exact h.field hg ha hu

/-- Another value under the same key brings no new name. -/
theorem Unambiguous.insert (hdistinct : (Schema.record fields).Distinct)
    (h : (Schema.record fields).Unambiguous (.object members))
    (hf : f ∈ fields) (hkey : key ∈ f.1) (hfind : findMember? key members = some v)
    (hw : f.2.Unambiguous w) :
    (Schema.record fields).Unambiguous (.object (insertMember key w members)) := by
  refine unambiguous_record (fun g hg => (h.single hg).mono fun a _ ha => ?_) ?_
  · rw [findMember?_insertMember] at ha
    by_cases hak : key = a
    · rw [← hak, hfind]
      rfl
    · simpa [hak] using ha
  · intro g hg a ha u hu
    rw [findMember?_insertMember] at hu
    by_cases hak : key = a
    · have hgf : g = f := hdistinct.eq_of_name hg hf (hak ▸ ha) hkey
      rw [if_pos hak] at hu
      obtain rfl := Option.some.inj hu
      rw [hgf]
      exact hw
    · rw [if_neg hak] at hu
      exact h.field hg ha hu

/-- **A change leaves every record unambiguous.** -/
theorem Tidies.unambiguous (hdistinct : schema.Distinct) (hv : schema.Unambiguous v)
    (h : Tidies schema v w) : schema.Unambiguous w := by
  -- one lemma for each change, and the induction is on the way to a record further in
  induction h with
  | unknown key _ => exact hv.erase
  | null key _ => exact hv.erase
  | rename hf hother hfind => exact hv.rename hdistinct hf hother hfind
  | field hf hkey hfind _ ih =>
    exact hv.insert hdistinct hf hkey hfind (ih (hdistinct.field hf) (hv.field hf hkey hfind))
  | item hget _ ih =>
    intro fields members hholds
    cases hdistinct with
    | list hitem =>
      cases hholds with
      | item hmem hholds =>
        rcases List.mem_or_eq_of_mem_set hmem with hmem | rfl
        · exact hv _ _ (.item hmem hholds)
        · exact ih hitem (hv.item (List.mem_of_getElem? hget)) _ _ hholds

/-! ## What a change does to the fields of a record -/

/-- The value of a field, under whichever of its names it is given. -/
def given (names : List String) (members : List (String × Json)) : Option Json :=
  names.findSome? (findMember? · members)

/-- If a field has one name at most, any key of it leads to its value. -/
theorem given_eq_some (h : Single names members) (hkey : key ∈ names)
    (hfind : findMember? key members = some v) : given names members = some v := by
  have hsome : (given names members).isSome :=
    List.findSome?_isSome_iff.mpr ⟨key, hkey, by simp [hfind]⟩
  obtain ⟨u, hu⟩ := Option.isSome_iff_exists.mp hsome
  obtain ⟨a, ha, hfind'⟩ := List.exists_of_findSome?_eq_some hu
  have hsame : a = key := h a ha key hkey (by simp [hfind']) (by simp [hfind])
  rw [hu, ← hfind', hsame, hfind]

theorem given_eq_none (h : ∀ a ∈ names, findMember? a members = none) :
    given names members = none :=
  List.findSome?_eq_none_iff.mpr h

@[simp] theorem given_singleton : given [key] members = findMember? key members := by
  cases hfind : findMember? key members <;> simp [given, hfind]

theorem given_congr (h : ∀ a ∈ names, findMember? a members' = findMember? a members) :
    given names members' = given names members := by
  induction names with
  | nil => rfl
  | cons a rest ih =>
    have hrest := ih fun b hb => h b (List.mem_cons_of_mem _ hb)
    have hhead := h a List.mem_cons_self
    simp only [given, List.findSome?_cons] at hrest ⊢
    rw [hhead, hrest]

/-- What is left out or set under a key that is no name of a field does not concern it. -/
theorem given_eraseMember_of_notMem (hkey : key ∉ names) :
    given names (eraseMember key members) = given names members := by
  refine given_congr fun a ha => ?_
  have hne : key ≠ a := fun heq => hkey (heq ▸ ha)
  rw [findMember?_eraseMember, if_neg hne]

theorem given_insertMember_of_notMem (hkey : key ∉ names) :
    given names (insertMember key v members) = given names members := by
  refine given_congr fun a ha => ?_
  have hne : key ≠ a := fun heq => hkey (heq ▸ ha)
  rw [findMember?_insertMember, if_neg hne]

/-- A field whose only name is left out has no value any more. -/
theorem given_eraseMember (h : Single names members) (hkey : key ∈ names)
    (hfind : findMember? key members = some v) :
    given names (eraseMember key members) = none := by
  refine given_eq_none fun a ha => ?_
  rw [findMember?_eraseMember]
  by_cases hak : key = a
  · rw [if_pos hak]
  · rw [if_neg hak]
    by_contra hne
    exact hak (h key hkey a ha (by simp [hfind]) (Option.isSome_iff_ne_none.mpr hne))

theorem given_insertMember (h : Single names (insertMember key v members)) (hkey : key ∈ names) :
    given names (insertMember key v members) = some v :=
  given_eq_some h hkey (by rw [findMember?_insertMember, if_pos rfl])

/-- Where no field has two names, its value is read whatever its name is. -/
theorem value?_eq_given (hnodup : names.Nodup) (h : Single names members) :
    value? members names = some (given names members) := by
  -- the first name that is a key is the only one
  induction names with
  | nil => rfl
  | cons a rest ih =>
    obtain ⟨hhead, hrest⟩ := List.nodup_cons.mp hnodup
    have hsingle : Single rest members := fun b hb c hc =>
      h b (List.mem_cons_of_mem _ hb) c (List.mem_cons_of_mem _ hc)
    cases hfind : findMember? a members with
    | none =>
      have hread := ih hrest hsingle
      simp only [value?, given, List.filterMap_cons, List.findSome?_cons, hfind] at hread ⊢
      exact hread
    | some v =>
      have hothers : rest.filterMap (findMember? · members) = [] := by
        refine List.filterMap_eq_nil_iff.mpr fun b hb => ?_
        by_contra hne
        have hb' : (findMember? b members).isSome := Option.isSome_iff_ne_none.mpr hne
        have hsame : a = b :=
          h a List.mem_cons_self b (List.mem_cons_of_mem _ hb) (by simp [hfind]) hb'
        exact hhead (hsame ▸ hb)
      simp [value?, given, hfind, hothers]

/-- What becomes of the value of a field: it stays, it was null and is gone, or it is tidied. -/
inductive Alike (schema : Schema) : Option Json → Option Json → Prop where
  | same (o : Option Json) : Alike schema o o
  | gone : Alike schema (some .null) none
  | tidied {v w : Json} (hv : schema.Unambiguous v) (h : Tidies schema v w) :
      Alike schema (some v) (some w)

theorem alike_of_eq {o o' : Option Json} (h : o' = o) : Alike schema o o' :=
  h ▸ .same o'

/-- **A change of a record does one of three things to each field.** -/
theorem alike_given (hdistinct : (Schema.record fields).Distinct)
    (hv : (Schema.record fields).Unambiguous (.object members))
    (h : Tidies (.record fields) (.object members) (.object members'))
    {f : List String × Schema} (hf : f ∈ fields) :
    Alike f.2 (given f.1 members) (given f.1 members') := by
  have hw := h.unambiguous hdistinct hv
  -- most changes leave a field as it is, and each kind of change is the odd one for some field
  cases h with
  | unknown key hunknown => exact alike_of_eq (given_eraseMember_of_notMem (hunknown f hf))
  | null key hnull =>
    by_cases hkey : key ∈ f.1
    · rw [given_eq_some (hv.single hf) hkey hnull, given_eraseMember (hv.single hf) hkey hnull]
      exact .gone
    · exact alike_of_eq (given_eraseMember_of_notMem hkey)
  | @rename _ _ name other others inner v hg hother hfind =>
    have hname : name ∈ name :: others := List.mem_cons_self
    have hother' : other ∈ name :: others := List.mem_cons_of_mem _ hother
    by_cases hfg : f = (name :: others, inner)
    · subst hfg
      refine alike_of_eq ?_
      rw [given_insertMember (hw.single hf) hname, given_eq_some (hv.single hf) hother' hfind]
    · have hnot : name ∉ f.1 := fun hmem => hfg (hdistinct.eq_of_name hf hg hmem hname)
      have hnot' : other ∉ f.1 := fun hmem => hfg (hdistinct.eq_of_name hf hg hmem hother')
      refine alike_of_eq ?_
      rw [given_insertMember_of_notMem hnot, given_eraseMember_of_notMem hnot']
  | @field _ _ g key v w hg hkey hfind hstep =>
    by_cases hfg : f = g
    · subst hfg
      rw [given_insertMember (hw.single hf) hkey, given_eq_some (hv.single hf) hkey hfind]
      exact .tidied (hv.field hf hkey hfind) hstep
    · have hnot : key ∉ f.1 := fun hmem => hfg (hdistinct.eq_of_name hf hg hmem hkey)
      exact alike_of_eq (given_insertMember_of_notMem hnot)

end Schema

end Tuner
