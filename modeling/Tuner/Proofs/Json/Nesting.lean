import Tuner.Json.Reader
import Tuner.Proofs.Json.Scan

/-!
# Reading and the depth of nesting

The reader of values is a machine with a stack of open containers, and it refuses to open one when
`bound` of them are open already. Both directions of what it does are stated with that stack:

* **`foldlM_tokens`** — on the tokens of a value, with some containers open around it, the machine
  stops behind the value if the value fits below the bound, and refuses it if not. Induction over
  values, where the items of an array and the members of an object are walked in turn.
* **`fits_of_ofChars?`** — whatever is read from any text fits: its depth is within the bound, its
  objects are in order and its numbers are in range. The invariant is that every container still
  open fits at its place in the stack (`StackFits`), and each token keeps it (`fits_of_step?`).
-/

namespace Tuner.Json

/-! ## Reading the tokens of a value -/

namespace Reading

variable {bound : Nat}

/-- The first item of an array is read like any other, if it is no closing bracket. -/
theorem step?_firstItem {t : Token} (ht : t ≠ .endArray) (outer : List Frame) :
    step? bound (.firstItem outer) t = step? bound (.value (.array [] :: outer)) t := by
  cases t with
  | endArray => exact absurd rfl ht
  | _ => rfl

/-- The text of a value begins with something, and not with a bracket that closes. -/
theorem tokens_eq_cons (v : Json) : ∃ t ts, v.tokens = t :: ts ∧ t ≠ .endArray := by
  cases v <;> exact ⟨_, _, rfl, by simp⟩

/-- A value behind an opening bracket is read like one behind a comma. -/
theorem foldlM_firstItem (v : Json) (rest : List Token) (outer : List Frame) :
    (v.tokens ++ rest).foldlM (step? bound) (.firstItem outer) =
      (v.tokens ++ rest).foldlM (step? bound) (.value (.array [] :: outer)) := by
  obtain ⟨t, ts, htokens, ht⟩ := tokens_eq_cons v
  rw [htokens, List.cons_append, List.foldlM_cons, List.foldlM_cons, step?_firstItem ht]

/-- What is to be shown of a value: with `outer` open around it, the machine stops behind it
exactly if it fits below the bound. -/
def Reads (bound : Nat) (v : Json) : Prop :=
  ∀ outer : List Frame, outer.length ≤ bound →
    v.tokens.foldlM (step? bound) (.value outer) =
      if outer.length + v.depth ≤ bound then some (complete v outer) else none

/-- The items of an array, behind those that have been read already. Induction on the items: each
value leaves the machine where a comma opens the next one. -/
theorem foldlM_itemTokens {items : List Json} (h : ∀ v ∈ items, Reads bound v) (hne : items ≠ [])
    (before : List Json) {outer : List Frame} (houter : outer.length < bound) :
    (itemTokens items).foldlM (step? bound) (.value (.array before :: outer)) =
      if ∀ v ∈ items, outer.length + 1 + v.depth ≤ bound
      then some (.nextItem (items.reverse ++ before) outer) else none := by
  induction items generalizing before with
  | nil => exact absurd rfl hne
  | cons v rest ih =>
    obtain ⟨hv, hrest⟩ := List.forall_mem_cons.mp h
    have hfirst := hv (.array before :: outer) houter
    rw [List.length_cons] at hfirst
    cases rest with
    | nil => simpa [itemTokens, complete] using hfirst
    | cons w rest =>
      rw [itemTokens_cons_cons, List.foldlM_append, hfirst]
      by_cases hfits : outer.length + 1 + v.depth ≤ bound
      · have hcomma : step? bound (complete v (.array before :: outer)) .comma =
            some (.value (.array (v :: before) :: outer)) := rfl
        rw [if_pos hfits, Option.bind_eq_bind, Option.bind_some, List.foldlM_cons, hcomma,
          Option.bind_eq_bind, Option.bind_some, ih hrest (by simp)]
        simp [hfits]
      · -- the machine stops inside of an item that does not fit
        rw [if_neg hfits, if_neg fun hall => hfits (hall v List.mem_cons_self)]
        rfl

/-- The members of an object, behind those that have been read already. Since the keys rise, each
member goes behind the others. -/
theorem foldlM_memberTokens {members : List (String × Json)} (h : ∀ m ∈ members, Reads bound m.2)
    (hne : members ≠ []) {before : List (String × Json)} (hkeys : Rising (before ++ members))
    {outer : List Frame} (houter : outer.length < bound) :
    (memberTokens members).foldlM (step? bound) (.key before outer) =
      if ∀ m ∈ members, outer.length + 1 + m.2.depth ≤ bound
      then some (.nextKey (before ++ members) outer) else none := by
  induction members generalizing before with
  | nil => exact absurd rfl hne
  | cons m rest ih =>
    obtain ⟨k, v⟩ := m
    obtain ⟨hv, hrest⟩ := List.forall_mem_cons.mp h
    -- the new key is behind all others, so insertion appends it
    have hlast : ∀ m ∈ before, m.1 < k := by
      intro m hm
      exact (List.pairwise_append.mp hkeys).2.2 m hm (k, v) List.mem_cons_self
    have hcomplete : complete v (.object before k :: outer) =
        .nextKey (before ++ [(k, v)]) outer := by
      rw [complete, insertMember_of_all_lt hlast]
    have hfirst := hv (.object before k :: outer) houter
    rw [List.length_cons, hcomplete] at hfirst
    have hopen : ∀ ts : List Token,
        (Token.string k :: .colon :: ts).foldlM (step? bound) (.key before outer) =
          ts.foldlM (step? bound) (.value (.object before k :: outer)) := fun _ => rfl
    cases rest with
    | nil => simpa [memberTokens, hopen] using hfirst
    | cons m rest =>
      rw [memberTokens_cons_cons, hopen, List.foldlM_append, hfirst]
      by_cases hfits : outer.length + 1 + v.depth ≤ bound
      · have hcomma : step? bound (.nextKey (before ++ [(k, v)]) outer) .comma =
            some (.key (before ++ [(k, v)]) outer) := rfl
        rw [if_pos hfits, Option.bind_eq_bind, Option.bind_some, List.foldlM_cons, hcomma,
          Option.bind_eq_bind, Option.bind_some, ih hrest (by simp) (by simpa using hkeys),
          List.append_assoc, List.singleton_append]
        have hall : (∀ u ∈ (k, v) :: m :: rest, outer.length + 1 + u.2.depth ≤ bound) ↔
            ∀ u ∈ m :: rest, outer.length + 1 + u.2.depth ≤ bound := by
          rw [List.forall_mem_cons]
          exact and_iff_right hfits
        exact if_congr hall.symm rfl rfl
      · rw [if_neg hfits, if_neg fun hall => hfits (hall (k, v) List.mem_cons_self)]
        rfl

/-- What follows the opening bracket of an array: its items and the closing bracket, or that bracket
at once. -/
theorem foldlM_arrayRest {items : List Json} (h : ∀ v ∈ items, Reads bound v) {outer : List Frame}
    (houter : outer.length < bound) :
    (itemTokens items ++ [Token.endArray]).foldlM (step? bound) (.firstItem outer) =
      if ∀ v ∈ items, outer.length + 1 + v.depth ≤ bound
      then some (complete (.array items) outer) else none := by
  cases items with
  | nil => simp [itemTokens, step?]
  | cons v rest =>
    have hfirst : (itemTokens (v :: rest) ++ [Token.endArray]).foldlM (step? bound)
        (.firstItem outer) =
        (itemTokens (v :: rest) ++ [Token.endArray]).foldlM (step? bound)
          (.value (.array [] :: outer)) := by
      cases rest with
      | nil => exact foldlM_firstItem v _ outer
      | cons w rest =>
        rw [itemTokens_cons_cons, List.append_assoc]
        exact foldlM_firstItem v _ outer
    rw [hfirst, List.foldlM_append, foldlM_itemTokens h (by simp) [] houter]
    by_cases hall : ∀ u ∈ v :: rest, outer.length + 1 + u.depth ≤ bound
    · rw [if_pos hall, if_pos hall]
      simp [step?]
    · rw [if_neg hall, if_neg hall]
      rfl

theorem foldlM_objectRest {members : List (String × Json)} (h : ∀ m ∈ members, Reads bound m.2)
    (hkeys : Rising members) {outer : List Frame} (houter : outer.length < bound) :
    (memberTokens members ++ [Token.endObject]).foldlM (step? bound) (.firstKey outer) =
      if ∀ m ∈ members, outer.length + 1 + m.2.depth ≤ bound
      then some (complete (.object members) outer) else none := by
  cases members with
  | nil => simp [memberTokens, step?]
  | cons m rest =>
    -- the first key is read like any other
    have hfirst : (memberTokens (m :: rest) ++ [Token.endObject]).foldlM (step? bound)
        (.firstKey outer) =
        (memberTokens (m :: rest) ++ [Token.endObject]).foldlM (step? bound) (.key [] outer) := by
      cases rest <;> rfl
    rw [hfirst, List.foldlM_append, foldlM_memberTokens h (by simp) (by simpa using hkeys) houter]
    by_cases hall : ∀ u ∈ m :: rest, outer.length + 1 + u.2.depth ≤ bound
    · rw [if_pos hall, if_pos hall]
      rfl
    · rw [if_neg hall, if_neg hall]
      rfl

/-- An array takes one place in the stack, and its items are read with that place taken. -/
theorem reads_array {items : List Json} (h : ∀ v ∈ items, Reads bound v) :
    Reads bound (.array items) := by
  intro outer houter
  rw [tokens, List.foldlM_cons]
  simp only [depth_array_le]
  by_cases hroom : outer.length < bound
  · have hopen : step? bound (.value outer) .beginArray = some (.firstItem outer) := if_pos hroom
    rw [hopen, Option.bind_eq_bind, Option.bind_some, foldlM_arrayRest h hroom]
    exact if_congr (and_iff_right hroom).symm rfl rfl
  · have hclosed : step? bound (.value outer) .beginArray = none := if_neg hroom
    rw [hclosed, if_neg fun h => hroom h.1]
    rfl

theorem reads_object {members : List (String × Json)} (h : ∀ m ∈ members, Reads bound m.2)
    (hkeys : Rising members) : Reads bound (.object members) := by
  intro outer houter
  rw [tokens, List.foldlM_cons]
  simp only [depth_object_le]
  by_cases hroom : outer.length < bound
  · have hopen : step? bound (.value outer) .beginObject = some (.firstKey outer) := if_pos hroom
    rw [hopen, Option.bind_eq_bind, Option.bind_some, foldlM_objectRest h hkeys hroom]
    exact if_congr (and_iff_right hroom).symm rfl rfl
  · have hclosed : step? bound (.value outer) .beginObject = none := if_neg hroom
    rw [hclosed, if_neg fun h => hroom h.1]
    rfl

/-- **Reading the tokens of a value.** A value that is no container is one token, which is read
wherever a value may stand. -/
theorem foldlM_tokens {v : Json} (hv : v.Ordered) : Reads bound v := by
  induction v using Json.induction with
  | null => exact fun outer houter => (if_pos houter).symm
  | bool b => exact fun outer houter => (if_pos houter).symm
  | number n => exact fun outer houter => (if_pos houter).symm
  | string s => exact fun outer houter => (if_pos houter).symm
  | array items ih =>
    cases hv with
    | array hitems => exact reads_array fun v hv => ih v hv (hitems v hv)
  | object members ih =>
    cases hv with
    | object hkeys hmembers => exact reads_object (fun m hm => ih m hm (hmembers m hm)) hkeys

end Reading

/-- **The tokens of a value read as the value exactly if it is not nested too deeply.** -/
theorem ofTokens?_tokens {v : Json} (hv : v.Ordered) (bound : Nat) :
    ofTokens? bound v.tokens = if v.depth ≤ bound then some v else none := by
  have hread := Reading.foldlM_tokens hv [] (Nat.zero_le bound)
  rw [ofTokens?, hread, List.length_nil, Nat.zero_add]
  by_cases hdepth : v.depth ≤ bound
  · rw [if_pos hdepth, if_pos hdepth]
    rfl
  · rw [if_neg hdepth, if_neg hdepth]
    rfl

/-- The same for the text of a value whose numbers read back. -/
theorem ofChars?_chars {v : Json} (hv : v.Ordered) (hnumbers : ∀ n ∈ v.numbers, n.ReadsBack)
    (bound : Nat) : ofChars? bound v.chars = if v.depth ≤ bound then some v else none := by
  rw [ofChars?, scan?_chars hnumbers, Option.bind_some, ofTokens?_tokens hv]

/-! ## Whatever is read fits

The other direction says nothing of how the text was written. Every state of the machine but the
last is a stack of open containers, the innermost of which may be the one just being filled. -/

/-- A value fits below `level` containers: it is not nested too deeply there, its objects are in
order, and its numbers are in range. -/
structure Fits (bound level : Nat) (v : Json) : Prop where
  ordered : v.Ordered
  depth_le : level + v.depth ≤ bound
  inRange : ∀ n ∈ v.numbers, n.InRange

/-- What an open container holds so far fits, at its place below `level` others. -/
def Frame.Fits (bound level : Nat) : Frame → Prop
  | .array items => ∀ v ∈ items, v.Fits bound (level + 1)
  | .object members _ => Rising members ∧ ∀ m ∈ members, m.2.Fits bound (level + 1)

/-- Every open container fits, and there was room to open it. -/
def StackFits (bound : Nat) : List Frame → Prop
  | [] => True
  | frame :: outer =>
    outer.length < bound ∧ frame.Fits bound outer.length ∧ StackFits bound outer

/-- The same for a state of the machine. The key of a frame does not matter. -/
def Reading.Fits (bound : Nat) : Reading → Prop
  | .value outer => StackFits bound outer
  | .firstItem outer => StackFits bound (.array [] :: outer)
  | .nextItem items outer => StackFits bound (.array items :: outer)
  | .firstKey outer => StackFits bound (.object [] "" :: outer)
  | .key members outer => StackFits bound (.object members "" :: outer)
  | .colon members _ outer => StackFits bound (.object members "" :: outer)
  | .nextKey members outer => StackFits bound (.object members "" :: outer)
  | .done v => v.Fits bound 0

variable {bound : Nat} {outer : List Frame}

/-- A stack never outgrows the bound. -/
theorem StackFits.length_le (h : StackFits bound outer) : outer.length ≤ bound := by
  cases outer with
  | nil => exact Nat.zero_le _
  | cons _ _ => exact h.1

/-- An array that is closed fits where it was open. Its items were stacked, so they are turned
around. -/
theorem fits_array_of_stackFits {items : List Json} (h : StackFits bound (.array items :: outer)) :
    (Json.array items.reverse).Fits bound outer.length := by
  obtain ⟨hroom, hitems, -⟩ := h
  refine ⟨.array fun v hv => (hitems v (List.mem_reverse.mp hv)).ordered, ?_, ?_⟩
  · exact depth_array_le.mpr ⟨hroom, fun v hv => (hitems v (List.mem_reverse.mp hv)).depth_le⟩
  · intro n hn
    obtain ⟨v, hv, hn⟩ := mem_itemNumbers.mp hn
    exact (hitems v (List.mem_reverse.mp hv)).inRange n hn

theorem fits_object_of_stackFits {members : List (String × Json)} {key : String}
    (h : StackFits bound (.object members key :: outer)) :
    (Json.object members).Fits bound outer.length := by
  obtain ⟨hroom, ⟨hkeys, hmembers⟩, -⟩ := h
  refine ⟨.object hkeys fun m hm => (hmembers m hm).ordered, ?_, ?_⟩
  · exact depth_object_le.mpr ⟨hroom, fun m hm => (hmembers m hm).depth_le⟩
  · intro n hn
    obtain ⟨m, hm, hn⟩ := mem_memberNumbers.mp hn
    exact (hmembers m hm).inRange n hn

/-- A value that fits goes into the innermost container, or it is the result. -/
theorem fits_complete {v : Json} (hv : v.Fits bound outer.length) (h : StackFits bound outer) :
    (Reading.complete v outer).Fits bound := by
  cases outer with
  | nil => exact hv
  | cons frame outer =>
    obtain ⟨hroom, hframe, houter⟩ := h
    cases frame with
    | array items => exact ⟨hroom, List.forall_mem_cons.mpr ⟨hv, hframe⟩, houter⟩
    | object members key =>
      obtain ⟨hkeys, hmembers⟩ := hframe
      refine ⟨hroom, ⟨rising_insertMember hkeys, fun m hm => ?_⟩, houter⟩
      rcases mem_of_mem_insertMember hm with rfl | hm
      · exact hv
      · exact hmembers m hm

/-- A token where a value may stand is one, or opens a container for which there is room. -/
theorem fits_of_begin? (h : StackFits bound outer) {t : Token}
    (ht : ∀ n, t = .number n → n.InRange) {r : Reading}
    (hr : Reading.begin? bound outer t = some r) : r.Fits bound := by
  have hlength := h.length_le
  -- four kinds of token are a whole value, and need no place in the stack
  have hleaf : ∀ v : Json, v.Ordered → v.depth = 0 → (∀ n ∈ v.numbers, n.InRange) →
      (Reading.complete v outer).Fits bound :=
    fun v hordered hdepth hnumbers => fits_complete ⟨hordered, by omega, hnumbers⟩ h
  unfold Reading.begin? at hr
  split at hr
  · obtain rfl := Option.some.inj hr
    exact hleaf _ .null rfl (by simp [numbers])
  · obtain rfl := Option.some.inj hr
    exact hleaf _ (.bool _) rfl (by simp [numbers])
  · obtain rfl := Option.some.inj hr
    exact hleaf _ (.number _) rfl (by simpa [numbers] using ht _ rfl)
  · obtain rfl := Option.some.inj hr
    exact hleaf _ (.string _) rfl (by simp [numbers])
  · obtain ⟨hroom, hr⟩ := Option.ite_none_right_eq_some.mp hr
    obtain rfl := Option.some.inj hr
    exact ⟨hroom, by simp [Frame.Fits], h⟩
  · obtain ⟨hroom, hr⟩ := Option.ite_none_right_eq_some.mp hr
    obtain rfl := Option.some.inj hr
    exact ⟨hroom, by simp [Frame.Fits, Rising], h⟩
  · exact absurd hr (by simp)

/-- **Each token keeps the open containers within the bound.** -/
theorem fits_of_step? {r r' : Reading} (h : r.Fits bound) {t : Token}
    (ht : ∀ n, t = .number n → n.InRange) (hr : r.step? bound t = some r') : r'.Fits bound := by
  unfold Reading.step? at hr
  split at hr
  · exact fits_of_begin? h ht hr
  · obtain rfl := Option.some.inj hr
    -- an empty array
    exact fits_complete (fits_array_of_stackFits h) h.2.2
  · exact fits_of_begin? h ht hr
  · obtain rfl := Option.some.inj hr
    exact h
  · obtain rfl := Option.some.inj hr
    exact fits_complete (fits_array_of_stackFits h) h.2.2
  · obtain rfl := Option.some.inj hr
    exact fits_complete (fits_object_of_stackFits h) h.2.2
  · obtain rfl := Option.some.inj hr
    exact h
  · obtain rfl := Option.some.inj hr
    exact h
  · obtain rfl := Option.some.inj hr
    exact h
  · obtain rfl := Option.some.inj hr
    exact h
  · obtain rfl := Option.some.inj hr
    exact fits_complete (fits_object_of_stackFits h) h.2.2
  · exact absurd hr (by simp)

/-- **Any tokens keep the open containers within the bound.** Induction on the tokens. -/
theorem fits_of_foldlM {ts : List Token} (ht : ∀ n, .number n ∈ ts → n.InRange) {r r' : Reading}
    (h : r.Fits bound) (hr : ts.foldlM (Reading.step? bound) r = some r') : r'.Fits bound := by
  induction ts generalizing r with
  | nil =>
    obtain rfl := Option.some.inj hr
    exact h
  | cons t ts ih =>
    rw [List.foldlM_cons] at hr
    obtain ⟨r₁, hr₁, hr⟩ := Option.bind_eq_some_iff.mp hr
    have hfirst : r₁.Fits bound :=
      fits_of_step? h (fun n hn => ht n (hn ▸ List.mem_cons_self)) hr₁
    exact ih (fun n hn => ht n (List.mem_cons_of_mem _ hn)) hfirst hr

/-- **Whatever is read fits.** -/
theorem fits_of_ofChars? {cs : List Char} {v : Json} (h : ofChars? bound cs = some v) :
    v.Fits bound 0 := by
  obtain ⟨ts, hscan, h⟩ := Option.bind_eq_some_iff.mp h
  obtain ⟨r, hr, hresult⟩ := Option.bind_eq_some_iff.mp h
  have hstart : (Reading.value []).Fits bound := trivial
  have hfits := fits_of_foldlM (Token.inRange_of_scan? hscan) hstart hr
  unfold Reading.result? at hresult
  split at hresult
  · obtain rfl := Option.some.inj hresult
    exact hfits
  · exact absurd hresult (by simp)

end Tuner.Json
