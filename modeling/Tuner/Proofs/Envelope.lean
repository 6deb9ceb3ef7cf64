import Tuner.Envelope
import Tuner.Proofs.Json.Nesting

/-!
# Frames carry their events

The array behind the mark of a frame is one container around the payload, so that of the 127
containers a text may nest, 126 are left to the payload. Up to there the frame of an event is read
as that event, and beyond it is no JSON at all to the reader (`decode_encode_eq`). What a frame
carries always fits (`fits_of_decode`), and so encoding it again gives a frame of the same event.
-/

namespace Tuner

open Json

namespace Envelope

/-- The mark in front of a frame is put there and taken away, so only the body is in question. -/
theorem decode_encode_body (e : Envelope) :
    Packet.decode e.encode =
      match Json.ofChars? Json.maxDepth e.body.chars with
      | none => .error .notJson
      | some (.array items) => (Envelope.ofItems items).map .event
      | some _ => .error .notArray := by
  rw [encode, Packet.decode, String.toList_ofList]
  rfl

/-- The array around an event is one more container, and the limit for JSON is one less than the
reader's. -/
theorem depth_body_le (e : Envelope) : e.body.depth ≤ Json.maxDepth ↔ e.payload.depth ≤ 126 := by
  simp only [body, depth, itemsDepth, Json.maxDepth]
  omega

theorem numbers_body (e : Envelope) : e.body.numbers = e.payload.numbers := by
  simp [body, numbers, itemNumbers]

/-- **What the frame of an event carries**, if the numbers of its payload read back. -/
theorem decode_encode_eq {e : Envelope} (hordered : e.payload.Ordered)
    (hnumbers : ∀ n ∈ e.payload.numbers, n.ReadsBack) :
    Packet.decode e.encode =
      if e.payload.depth ≤ 126 then .ok (.event e) else .error .notJson := by
  -- the array has no keys, and the payload is in order
  have hbody : e.body.Ordered := by
    refine .array fun v hv => ?_
    rcases List.mem_cons.mp hv with rfl | hv
    · exact .string _
    · obtain rfl := List.mem_singleton.mp hv
      exact hordered
  rw [decode_encode_body, ofChars?_chars hbody (by rwa [numbers_body])]
  by_cases hdepth : e.payload.depth ≤ 126
  · rw [if_pos ((depth_body_le e).mpr hdepth), if_pos hdepth]
    rfl
  · rw [if_neg fun h => hdepth ((depth_body_le e).mp h), if_neg hdepth]

/-- A payload is one of the values in the array, or null where there is none. -/
theorem mem_of_ofItems {items : List Json} {e : Envelope} (h : ofItems items = .ok e) :
    e.payload = .null ∨ e.payload ∈ items := by
  unfold ofItems at h
  split at h
  · obtain rfl := Except.ok.inj h
    exact Or.inl rfl
  · obtain rfl := Except.ok.inj h
    exact Or.inr (by simp)
  all_goals exact absurd h (by simp)

/-- **What a frame carries fits** below the array that the event stands in. -/
theorem fits_of_decode {frame : String} {e : Envelope}
    (h : Packet.decode frame = .ok (.event e)) : e.payload.Fits Json.maxDepth 1 := by
  unfold Packet.decode at h
  split at h
  · exact absurd h (by simp)
  · split at h
    · split at h
      · exact absurd h (by simp)
      · next items hread =>
        obtain ⟨hordered, hdepth, hnumbers⟩ := fits_of_ofChars? hread
        -- the event is one of those that `map` leaves as they are
        have hitems : ofItems items = .ok e := by
          cases hof : ofItems items with
          | error _ => rw [hof] at h; exact absurd h (by simp [Except.map])
          | ok e' =>
            rw [hof] at h
            simpa [Except.map] using h
        -- A missing payload fits anywhere; one that is there fits as the reader has let it in.
        rcases mem_of_ofItems hitems with hnull | hmem
        · rw [hnull]
          exact ⟨.null, by decide, by simp [numbers]⟩
        · cases hordered with
          | array hall =>
            refine ⟨hall _ hmem, (depth_array_le.mp hdepth).2 _ hmem, fun n hn => ?_⟩
            exact hnumbers n (mem_itemNumbers.mpr ⟨_, hmem, hn⟩)
      · exact absurd h (by simp)
    · exact absurd h (by simp)

/-- Integers in range read back, so of a payload's numbers only its doubles are in question. -/
theorem readsBack_of_inRange {v : Json} (hrange : ∀ n ∈ v.numbers, n.InRange)
    (hdoubles : ∀ x, .double x ∈ v.numbers → (Number.double x).ReadsBack) :
    ∀ n ∈ v.numbers, n.ReadsBack := by
  intro n hn
  cases n with
  | integer i => exact Number.ofChars?_integerChars (hrange _ hn)
  | double x => exact hdoubles x hn

/-- **Frames carry their events.** An event with any name and any payload, whose objects have no
key twice and whose integers fit 64 bits, is encoded as a frame that carries exactly this event if
its payload nests at most 126 containers, and that is no JSON if it nests more. Whatever frame
carries an event, the event encoded again is a frame that carries the same event. Of the doubles in
the payload it is asked that their printed form reads back. -/
theorem decode_encode :
    (∀ (event : String) (payload : Json), payload.Ordered →
      (∀ n ∈ payload.numbers, n.InRange) →
      (∀ x, .double x ∈ payload.numbers → (Number.double x).ReadsBack) →
      Packet.decode (Envelope.encode ⟨event, payload⟩) =
        if payload.depth ≤ 126 then .ok (.event ⟨event, payload⟩) else .error .notJson) ∧
    (∀ (frame : String) (e : Envelope), Packet.decode frame = .ok (.event e) →
      (∀ x, .double x ∈ e.payload.numbers → (Number.double x).ReadsBack) →
      Packet.decode e.encode = .ok (.event e)) := by
  constructor
  · intro event payload hordered hrange hdoubles
    exact decode_encode_eq hordered (readsBack_of_inRange hrange hdoubles)
  · intro frame e hframe hdoubles
    obtain ⟨hordered, hdepth, hrange⟩ := fits_of_decode hframe
    have hshallow : e.payload.depth ≤ 126 := by
      simp only [Json.maxDepth] at hdepth
      omega
    rw [decode_encode_eq hordered (readsBack_of_inRange hrange hdoubles), if_pos hshallow]

/-- A name with characters that are escaped and one beyond the basic plane; a payload with objects
and arrays, the integers at both ends of their range, and a double. -/
theorem decode_encode_nested :
    let payload : Json := .object [("a\"", .array [.null, .number (.double 0.5), .bool true]),
      ("b", .array [.number (.integer (-9223372036854775808)),
        .number (.integer 18446744073709551615), .object []])]
    Packet.decode (Envelope.encode ⟨"tab\t\\ \x07 😀", payload⟩) =
        .ok (.event ⟨"tab\t\\ \x07 😀", payload⟩) ∧
      Packet.decode "2[\"e\",[ ]]" = .ok (.event ⟨"e", .array []⟩) ∧
      Packet.decode (Envelope.encode ⟨"e", .array []⟩) = .ok (.event ⟨"e", .array []⟩) := by
  intro payload
  have hordered : payload.Ordered := by
    refine .object (List.pairwise_pair.mpr (by decide)) fun m hm => ?_
    rcases List.mem_pair.mp hm with rfl | rfl
    · refine .array fun v hv => ?_
      have hleaf : v = .null ∨ v = .number (.double 0.5) ∨ v = .bool true := by simpa using hv
      rcases hleaf with rfl | rfl | rfl
      · exact .null
      · exact .number _
      · exact .bool _
    · refine .array fun v hv => ?_
      have hleaf : v = .number (.integer (-9223372036854775808)) ∨
          v = .number (.integer 18446744073709551615) ∨ v = .object [] := by simpa using hv
      rcases hleaf with rfl | rfl | rfl
      · exact .number _
      · exact .number _
      · exact .object .nil (by simp)
  have hrange : ∀ n ∈ payload.numbers, n.InRange := by
    simp [payload, numbers, itemNumbers, memberNumbers, Number.InRange, Word.limit,
      Word.signedLimit]
  have hdoubles : ∀ x, .double x ∈ payload.numbers → (Number.double x).ReadsBack := by
    intro x hx
    obtain rfl : x = 0.5 := by simpa [payload, numbers, itemNumbers, memberNumbers] using hx
    have htext : (Number.double 0.5).chars = ['0', '.', '5'] := by decide +kernel
    rw [Number.ReadsBack, htext]
    rfl
  have hframe : Packet.decode "2[\"e\",[ ]]" = .ok (.event ⟨"e", .array []⟩) := by rfl
  refine ⟨decode_encode.1 _ payload hordered hrange hdoubles, hframe, ?_⟩
  exact decode_encode.2 _ _ hframe (by simp [numbers, itemNumbers])

end Envelope

end Tuner
