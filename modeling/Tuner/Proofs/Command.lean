import Mathlib
import Tuner.Command
import Tuner.Proofs.Envelope
import Tuner.Proofs.Event.Fields

/-!
# Commands on the wire

A command can be read off its frame, with one loss: a gain is sent as a whole percentage. `heard?`
is that reading of an envelope, and `told` is what it gets of a command. Since the payloads are
shallow and have no doubles in them, every frame carries its envelope, and so two commands share a
frame exactly if the same is told of both (`frame_eq_iff`).

The whole percentage is computed on the parts of a double. Over the rationals it is the nearest
integer to the percentage, once that is moved into the range of the slider
(`wholePercent_eq_round`).
-/

namespace Tuner

/-! ## Whole percentages -/

namespace Decimal

variable (m : Nat) (q : Int)

theorem ratio_pos : 0 < (ratio m q).2 := by
  show 0 < 1 <<< (-q).toNat
  rw [Nat.shiftLeft_eq, Nat.one_mul]
  exact Nat.two_pow_pos _

/-- The quotient of `ratio` is the magnitude that it stands for. -/
theorem ratio_eq : ((ratio m q).1 : ℚ) / (ratio m q).2 = m * 2 ^ q := by
  show ((m <<< q.toNat : Nat) : ℚ) / (1 <<< (-q).toNat : Nat) = m * 2 ^ q
  have hexponent : q = (q.toNat : ℤ) - (-q).toNat := by omega
  rw [Nat.shiftLeft_eq, Nat.shiftLeft_eq, Nat.one_mul]
  conv_rhs => rw [hexponent, zpow_sub₀ (by norm_num)]
  push_cast
  rw [zpow_natCast, zpow_natCast, mul_div_assoc]

/-- What the program calls nearest is the rounding of the library, halves upwards. -/
theorem nearestWhole_eq_round : (nearestWhole m q : ℤ) = round ((m : ℚ) * 2 ^ q) := by
  have hden : ((ratio m q).2 : ℚ) ≠ 0 := by
    have hpos := ratio_pos m q
    positivity
  have hhalf : ((ratio m q).1 : ℚ) / (ratio m q).2 + 1 / 2 =
      ((2 * (ratio m q).1 + (ratio m q).2 : ℕ) : ℚ) / (2 * (ratio m q).2 : ℕ) := by
    push_cast
    field_simp
  rw [← ratio_eq, round_eq, hhalf, Rat.floor_natCast_div_natCast]
  rfl

end Decimal

open Decimal in
/-- A percentage moved into the range of the slider. What is no number counts as zero. -/
def sliderPercent (percent : Float) : ℚ :=
  match Binary.ofFloat percent with
  | .nan => 0
  | .infinite negative => if negative then 0 else 100
  | .finite negative m q => max 0 (min 100 (if negative then -(m * 2 ^ q) else m * 2 ^ q))

theorem monotone_round : Monotone (round : ℚ → ℤ) := by
  intro x y h
  rw [round_eq, round_eq]
  exact Int.floor_mono (by linarith)

/-- What is sent of a gain lies between the ends of the slider. -/
theorem round_sliderPercent_mem (p : Float) :
    0 ≤ round (sliderPercent p) ∧ round (sliderPercent p) ≤ 100 := by
  have hrange : 0 ≤ sliderPercent p ∧ sliderPercent p ≤ 100 := by
    rw [sliderPercent]
    split
    · norm_num
    · split <;> norm_num
    · exact ⟨le_max_left _ _, max_le (by norm_num) (min_le_left _ _)⟩
  have hzero : round (0 : ℚ) = 0 := round_zero
  have hfull : round (100 : ℚ) = 100 := round_ofNat 100
  exact ⟨hzero ▸ monotone_round hrange.1, hfull ▸ monotone_round hrange.2⟩

/-- **What is sent of a gain** is the integer nearest to its percentage in the slider's range. -/
theorem wholePercent_eq_round (p : Float) : (wholePercent p : ℤ) = round (sliderPercent p) := by
  rw [wholePercent, sliderPercent]
  cases Decimal.Binary.ofFloat p with
  | nan => simp
  | infinite negative =>
    cases negative with
    -- below zero the slider is at its lower end
    | true => simp
    | false => simp [round_ofNat]
  | finite negative m q =>
    have hmagnitude : (0 : ℚ) ≤ (m : ℚ) * 2 ^ q := by positivity
    cases negative with
    | true =>
      have hlow : min 100 (-((m : ℚ) * 2 ^ q)) ≤ 0 := (min_le_right _ _).trans (by linarith)
      simp [max_eq_left hlow]
    | false =>
      have hlow : 0 ≤ min 100 ((m : ℚ) * 2 ^ q) := le_min (by norm_num) hmagnitude
      simp only [Bool.false_eq_true, if_false]
      -- in the range, rounding before the bound and behind it is the same
      rw [max_eq_right hlow, monotone_round.map_min, round_ofNat, ← Decimal.nearestWhole_eq_round]
      push_cast
      rfl

/-! ## Payloads -/

namespace Json

variable {members : List (String × Json)} {items : List Json} {level : Nat}

/-- A value whose text is read as that value, below some containers. -/
structure Legible (level : Nat) (v : Json) : Prop where
  ordered : v.Ordered
  depth_le : level + v.depth ≤ maxDepth
  readsBack : ∀ n ∈ v.numbers, n.ReadsBack

theorem legible_null (h : level ≤ maxDepth) : null.Legible level :=
  ⟨.null, h, by simp [numbers]⟩

theorem legible_string (s : String) (h : level ≤ maxDepth) : (string s).Legible level :=
  ⟨.string s, h, by simp [numbers]⟩

theorem legible_ofInt {n : Int} (hrange : Number.InRange (.integer n)) (h : level ≤ maxDepth) :
    (ofInt n).Legible level := by
  refine ⟨.number _, h, fun number hmem => ?_⟩
  obtain rfl := List.mem_singleton.mp hmem
  exact Number.ofChars?_integerChars hrange

/-- An array takes one level more than what is in it. -/
theorem legible_array (hroom : level < maxDepth) (h : ∀ v ∈ items, v.Legible (level + 1)) :
    (array items).Legible level := by
  refine ⟨.array fun v hv => (h v hv).ordered, ?_, fun n hn => ?_⟩
  · exact depth_array_le.mpr ⟨hroom, fun v hv => (h v hv).depth_le⟩
  · obtain ⟨v, hv, hn⟩ := mem_itemNumbers.mp hn
    exact (h v hv).readsBack n hn

/-- Sorting puts members in order and adds none. -/
theorem rising_sorted (members : List (String × Json)) {start : List (String × Json)}
    (hstart : Rising start) :
    Rising (members.foldl (fun ms m => insertMember m.1 m.2 ms) start) ∧
      members.foldl (fun ms m => insertMember m.1 m.2 ms) start ⊆ start ++ members := by
  induction members generalizing start with
  | nil => simpa using hstart
  | cons first rest ih =>
    have hfirst : Rising (insertMember first.1 first.2 start) := rising_insertMember hstart
    obtain ⟨hrising, hsubset⟩ := ih hfirst
    refine ⟨hrising, fun m hm => ?_⟩
    rcases List.mem_append.mp (hsubset hm) with hm | hm
    · rcases mem_of_mem_insertMember hm with rfl | hm <;> simp_all
    · simp [hm]

theorem legible_ofMembers (hroom : level < maxDepth)
    (h : ∀ m ∈ members, m.2.Legible (level + 1)) : (ofMembers members).Legible level := by
  obtain ⟨hrising, hsubset⟩ := rising_sorted members .nil
  have hmembers := fun m hm => h m (hsubset hm)
  refine ⟨.object hrising fun m hm => (hmembers m hm).ordered, ?_, fun n hn => ?_⟩
  · exact depth_object_le.mpr ⟨hroom, fun m hm => (hmembers m hm).depth_le⟩
  · obtain ⟨m, hm, hn⟩ := mem_memberNumbers.mp hn
    exact (hmembers m hm).readsBack n hn

end Json

namespace PlayerAction

def all : List PlayerAction :=
  [togglePlayback, skip, love, ban, tired, explain, upcoming]

def ofName? (name : String) : Option PlayerAction :=
  all.find? (·.name = name)

@[simp] theorem ofName?_name (a : PlayerAction) : ofName? a.name = some a := by
  cases a <;> decide

end PlayerAction

namespace Command

open Json Payload

/-- What is told of a command: all of it, but of a gain only the whole percentage. -/
def told : Command → Command ⊕ Nat
  | setGain percent => .inr (wholePercent percent)
  | c => .inl c

/-- The value of a key, if a payload is an object with that key. -/
def member? (key : String) : Json → Option Json
  | .object members => findMember? key members
  | _ => none

def textOf? (key : String) (payload : Json) : Option String :=
  (member? key payload).bind text?

/-- The action of a payload, or the percentage of a gain. -/
def heardAction? : Json → Option (Command ⊕ Nat)
  | .string name => (PlayerAction.ofName? name).map (.inl <| .action ·)
  | payload =>
    match member? "volume" payload with
    | some (.number (.integer n)) => some (.inr n.toNat)
    | _ => none

/-- What a station is to be made from. The payload has a type unless it has an identifier. -/
def heardSource? (payload : Json) : Option StationSource :=
  let token := textOf? "trackToken" payload
  match textOf? "type" payload with
  | none => (textOf? "musicId" payload).map .music
  | some kind => if kind = "song" then token.map .song else token.map .artist

/-- The command that an envelope tells. -/
def heard? (e : Envelope) : Option (Command ⊕ Nat) :=
  let text (key : String) := textOf? key e.payload
  match e.event with
  | "query" => some (.inl .query)
  | "action" => heardAction? e.payload
  | "station.change" => (text "stationId").map (.inl <| .changeStation ·)
  | "station.createFrom" => (heardSource? e.payload).map (.inl <| .createFrom ·)
  | "station.addGenre" => (text "genreId").map (.inl <| .addGenre ·)
  | "station.addMusic" =>
    (text "stationId").bind fun id => (text "musicId").map (.inl <| .addMusic id ·)
  | "station.delete" => (text "stationId").map (.inl <| .deleteStation ·)
  | "station.rename" =>
    (text "stationId").bind fun id => (text "name").map (.inl <| .renameStation id ·)
  | "station.setQuickMix" =>
    ((member? "stationIds" e.payload).bind (list? text?)).map (.inl <| .setQuickMix ·)
  | "station.getGenres" => some (.inl .getGenres)
  | "music.search" => (text "query").map (.inl <| .search ·)
  | "station.getInfo" => (text "stationId").map (.inl <| .getStationInfo ·)
  | "station.deleteSeed" => (text "seedId").map (.inl <| .deleteSeed ·)
  | _ => none

variable {members : List (String × Json)} {key : String}

/-- A key is found in an object with the value that it was given, as no key is given twice. -/
theorem member?_ofMembers (hdistinct : (members.map (·.1)).Nodup) :
    member? key (ofMembers members) = findMember? key members :=
  findMember?_sorted hdistinct

theorem textOf?_ofMembers (hdistinct : (members.map (·.1)).Nodup) :
    textOf? key (ofMembers members) = (findMember? key members).bind text? := by
  rw [textOf?, member?_ofMembers hdistinct]

/-- A gain is heard as its whole percentage, and not as one of the actions. -/
theorem heardAction?_gain (n : Nat) :
    heardAction? (ofMembers [("action", .string "volume"), ("volume", ofInt n)]) =
      some (.inr n) := by
  have hvolume : member? "volume" (ofMembers [("action", .string "volume"), ("volume", ofInt n)]) =
      some (ofInt n) := by
    rw [member?_ofMembers (by simp)]
    rfl
  show (match member? "volume" _ with
    | some (.number (.integer n)) => some (Sum.inr n.toNat)
    | _ => none) = _
  rw [hvolume]
  rfl

/-- The type of the payload tells the three sources apart. -/
theorem heardSource?_payload (source : StationSource) :
    heardSource? (createFrom source).payload = some source := by
  cases source <;> simp [payload, heardSource?, textOf?_ofMembers, findMember?_cons, text?]

/-- **A command is heard from its envelope.** -/
theorem heard?_toEnvelope (c : Command) : heard? c.toEnvelope = some c.told := by
  cases c with
  | action a => simp [heard?, toEnvelope, eventName, payload, heardAction?, told]
  | setGain percent => simp [heard?, toEnvelope, eventName, payload, heardAction?_gain, told]
  | createFrom source => simp [heard?, toEnvelope, eventName, heardSource?_payload, told]
  | setQuickMix ids =>
    have hids : list? text? (.array (ids.map .string)) = some ids := list?_map fun _ _ => rfl
    simp [heard?, toEnvelope, eventName, payload, member?_ofMembers, findMember?_cons, hids, told]
  | _ =>
    simp [heard?, toEnvelope, eventName, payload, textOf?_ofMembers, findMember?_cons, text?, told]

/-! ## Frames -/

/-- Two commands of which the same is told are the same, or are two gains. -/
theorem told_eq_iff (c c' : Command) :
    c.told = c'.told ↔ c = c' ∨
      ∃ p p', c = .setGain p ∧ c' = .setGain p' ∧ wholePercent p = wholePercent p' := by
  constructor
  · intro h
    cases c with
    | setGain p =>
      cases c' with
      | setGain p' => exact .inr ⟨p, p', rfl, rfl, Sum.inr.inj h⟩
      | _ => cases h
    | _ =>
      cases c' with
      | setGain p' => cases h
      | _ => exact .inl (Sum.inl.inj h)
  · rintro (rfl | ⟨p, p', rfl, rfl, h⟩)
    · rfl
    · exact congrArg Sum.inr h

/-- **Envelopes are as different as what they tell.** -/
theorem toEnvelope_eq_iff (c c' : Command) : c.toEnvelope = c'.toEnvelope ↔ c.told = c'.told := by
  constructor
  · intro h
    have hheard := heard?_toEnvelope c
    rw [h, heard?_toEnvelope] at hheard
    exact (Option.some.inj hheard).symm
  · intro h
    rcases (told_eq_iff c c').mp h with rfl | ⟨p, p', rfl, rfl, hpercent⟩
    · rfl
    · rw [toEnvelope, toEnvelope, payload, payload, hpercent]
      rfl

/-- A percentage that is sent has three digits at most. -/
theorem wholePercent_le (p : Float) : wholePercent p ≤ 100 := by
  have hround := (round_sliderPercent_mem p).2
  rw [← wholePercent_eq_round] at hround
  omega

/-- A payload is at most an object of texts and small integers. -/
theorem legible_payload (c : Command) : c.payload.Legible 1 := by
  have hroom : 1 < maxDepth := by decide
  have htext : ∀ s, (string s).Legible 2 := fun s => legible_string s (by decide)
  cases c with
  | query => exact legible_null (by decide)
  | getGenres => exact legible_null (by decide)
  | action a => exact legible_string _ (by decide)
  | setGain p =>
    have hrange : Number.InRange (.integer (wholePercent p)) := by
      have hbound := wholePercent_le p
      simp only [Number.InRange, Word.signedLimit, Word.limit]
      omega
    have hpercent : (ofInt (wholePercent p)).Legible 2 := legible_ofInt hrange (by decide)
    exact legible_ofMembers hroom (by simpa using ⟨htext _, hpercent⟩)
  | setQuickMix ids =>
    have hids : (array (ids.map .string)).Legible 2 := by
      refine legible_array (by decide) fun v hv => ?_
      obtain ⟨id, -, rfl⟩ := List.mem_map.mp hv
      exact legible_string id (by decide)
    exact legible_ofMembers hroom (by simpa using hids)
  | createFrom source => cases source <;> exact legible_ofMembers hroom (by simp [htext])
  | _ => exact legible_ofMembers hroom (by simp [htext])

/-- **A command arrives as it was sent.** -/
theorem decode_frame_eq (c : Command) : Packet.decode c.frame = .ok (.event c.toEnvelope) := by
  have hlegible := c.legible_payload
  have hdepth : c.payload.depth ≤ 126 := by
    have hbound := hlegible.depth_le
    simp only [maxDepth] at hbound
    omega
  rw [frame, Envelope.decode_encode_eq hlegible.ordered hlegible.readsBack]
  exact if_pos hdepth

theorem frame_eq_iff (c c' : Command) : c.frame = c'.frame ↔ c.told = c'.told := by
  rw [← toEnvelope_eq_iff]
  refine ⟨fun h => ?_, fun h => congrArg Envelope.encode h⟩
  have hdecode := decode_frame_eq c
  rw [h, decode_frame_eq c'] at hdecode
  simpa using hdecode.symm

/-- **Commands are unambiguous on the wire.** The frame of every command carries its name and its
payload. Two commands share a frame only if they are the same, or if they set the gain to
percentages that are nearest to the same integer once they are moved into the range of the slider.
That integer is what is sent, and it is from 0 to 100. -/
theorem frame_unambiguous :
    (∀ c : Command, Packet.decode c.frame = .ok (.event ⟨c.eventName, c.payload⟩)) ∧
    (∀ c c' : Command, c.frame = c'.frame ↔ c = c' ∨
      ∃ p p', c = .setGain p ∧ c' = .setGain p' ∧
        round (sliderPercent p) = round (sliderPercent p')) ∧
    ∀ p, (setGain p).payload = ofMembers [("action", .string "volume"),
        ("volume", ofInt (round (sliderPercent p)))] ∧
      0 ≤ round (sliderPercent p) ∧ round (sliderPercent p) ≤ 100 := by
  refine ⟨decode_frame_eq, fun c c' => ?_, fun p => ⟨?_, round_sliderPercent_mem p⟩⟩
  · rw [frame_eq_iff, told_eq_iff]
    simp only [← wholePercent_eq_round, Nat.cast_inj]
  · rw [← wholePercent_eq_round]
    rfl

end Command

end Tuner
