import Tuner.Decimal.Style
import Tuner.Proofs.Json.Numeral

/-!
# Doubles written in place

A finite double that is written in place has digits on both sides of its point, and in front of them
no needless zero, since the shortest decimal of a double is zero for zero alone (`shortest_pos`).
Such a numeral is read as the double nearest to all its digits, scaled by those behind the point.
-/

namespace Tuner.Decimal

open Number (head?_toDigits spanDigits_of_all_isDigit)

/-- Digits on both sides of a point, with no needless zero in front. -/
structure IsPointed (whole places : List Char) : Prop where
  isDigit_whole : ∀ c ∈ whole, c.isDigit = true
  whole_ne_nil : whole ≠ []
  front : whole.head? ≠ some '0' ∨ whole.length = 1
  isDigit_places : ∀ c ∈ places, c.isDigit = true
  places_ne_nil : places ≠ []

variable {whole places cs : List Char} {c x : Char} {tie : Tie} {i : Interval} {m n : Nat}
variable {q e : Int}

/-! ## The shortest decimal -/

theorem powerOfTen_pos (k : Nat) : 0 < powerOfTen k :=
  Nat.pow_pos (by decide)

/-- A candidate lies above the low end of the interval, and so above zero. -/
theorem onGrid_pos (hlow : 0 < i.low) (h : onGrid tie i q e = some n) : 0 < n := by
  unfold onGrid at h
  extract_lets unit step rounds down twice at h
  have hunit : 0 < unit := Nat.mul_pos (Nat.pos_of_ne_zero (by simp)) (powerOfTen_pos _)
  have hzero : rounds 0 = false := by
    have hend : i.low * unit ≠ 0 := Nat.ne_of_gt (Nat.mul_pos hlow hunit)
    simp [rounds, hend]
  have hdown : rounds down = true → 0 < down := by
    intro hround
    refine Nat.pos_of_ne_zero fun heq => ?_
    rw [heq, hzero] at hround
    cases hround
  split at h
  · cases h
  · next hround _ =>
    obtain rfl := Option.some.inj h
    exact hdown hround
  · obtain rfl := Option.some.inj h
    exact Nat.succ_pos down
  · next hround _ =>
    have hpos := hdown hround
    -- The nearer one of the two is taken, and of two equally near ones what `tie` says.
    split at h
    · obtain rfl := Option.some.inj h
      exact hpos
    · split at h
      · obtain rfl := Option.some.inj h
        exact Nat.succ_pos down
      · split at h
        · obtain rfl := Option.some.inj h
          split <;> omega
        · obtain rfl := Option.some.inj h
          exact Nat.succ_pos down

/-- **The shortest decimal of a positive double is not zero.** Either a candidate was found, and it
is above the low end, or the digits are those of the double itself. -/
theorem shortest_pos (hm : 0 < m) (tie : Tie) (q : Int) : 0 < (shortest tie m q).digits := by
  have hlow : 0 < (Interval.around m q).low := by
    simp only [Interval.around]
    split <;> omega
  simp only [shortest]
  cases hfound : (List.range 24).findSome? fun (k : Nat) =>
      (onGrid tie (Interval.around m q) q (coarsest m q - (k : Int))).map fun d =>
        (⟨d, coarsest m q - (k : Int)⟩ : Scaled) with
  | none => exact hm
  | some d =>
    -- the first grid, from the coarsest on, that has a candidate
    obtain ⟨k, -, hk⟩ := List.exists_of_findSome?_eq_some hfound
    obtain ⟨n, hn, rfl⟩ := Option.map_eq_some_iff.mp hk
    exact onGrid_pos hlow hn

/-! ## What is written -/

theorem isDigit_of_mem_toDigits (h : c ∈ Nat.toDigits 10 n) : c.isDigit = true :=
  Nat.isDigit_of_mem_toDigits (by decide) (by decide) h

theorem isDigit_of_mem_replicate (h : c ∈ List.replicate n '0') : c.isDigit = true := by
  rw [List.eq_of_mem_replicate h]
  rfl

/-- A decimal that is not zero has digits on both sides of its point, wherever the point comes to
stand. -/
theorem exists_pointed_inPlace {d : Scaled} (h : 0 < d.digits) :
    ∃ whole places, IsPointed whole places ∧ d.inPlace true = whole ++ '.' :: places := by
  have hne : digitChars d.digits ≠ [] := Nat.toDigits_ne_nil
  have hfront : (digitChars d.digits).head? ≠ some '0' := head?_toDigits h
  simp only [Scaled.inPlace]
  split
  · -- a whole number: zeros behind its digits, and one more behind the point
    refine ⟨digitChars d.digits ++ List.replicate d.exponent.toNat '0', ['0'], ?_, by simp⟩
    refine ⟨fun c hc => ?_, by simp [hne], .inl ?_, by simp, by simp⟩
    · rcases List.mem_append.mp hc with hc | hc
      · exact isDigit_of_mem_toDigits hc
      · exact isDigit_of_mem_replicate hc
    · rw [List.head?_append, Option.or_of_isSome (by simpa using hne)]
      exact hfront
  · split
    · -- the point falls among the digits
      next hexponent hwhole =>
      refine ⟨(digitChars d.digits).take ((digitChars d.digits).length + d.exponent).toNat,
        (digitChars d.digits).drop ((digitChars d.digits).length + d.exponent).toNat, ?_, by simp⟩
      refine ⟨fun c hc => isDigit_of_mem_toDigits (List.mem_of_mem_take hc), ?_, .inl ?_,
        fun c hc => isDigit_of_mem_toDigits (List.mem_of_mem_drop hc), ?_⟩
      · simp only [ne_eq, List.take_eq_nil_iff, hne, or_false]
        omega
      · rwa [List.head?_take, if_neg (by omega)]
      · simp only [ne_eq, List.drop_eq_nil_iff]
        omega
    · -- all digits stand behind the point, with zeros between
      refine ⟨['0'], _, ?_, rfl⟩
      refine ⟨by simp, by simp, .inr rfl, fun c hc => ?_, by simp [hne]⟩
      rcases List.mem_append.mp hc with hc | hc
      · exact isDigit_of_mem_replicate hc
      · exact isDigit_of_mem_toDigits hc

/-- Any finite double in a style without powers of ten and with a point in whole numbers. -/
theorem exists_pointed_chars (style : Style) (hpoint : style.wholePoint = true)
    (hplace : ∀ e, style.inPlace e = true) (negative : Bool) (m : Nat) (q : Int) :
    ∃ whole places, IsPointed whole places ∧
      style.chars (.finite negative m q) = sign negative ++ (whole ++ '.' :: places) := by
  simp only [Style.chars, hpoint, hplace, if_true]
  split
  · exact ⟨['0'], ['0'], by constructor <;> simp, by simp⟩
  · next hm =>
    obtain ⟨whole, places, hpointed, hchars⟩ :=
      exists_pointed_inPlace (shortest_pos (Nat.pos_of_ne_zero hm) style.tie q)
    exact ⟨whole, places, hpointed, by rw [hchars]⟩

/-! ## What is read -/

theorem ne_of_isDigit (hc : c.isDigit = true) (hx : x.isDigit = false) : c ≠ x := by
  rintro rfl
  rw [hc] at hx
  cases hx

/-- A text that starts with a digit has no sign. -/
theorem takeSign_of_isDigit (hc : c.isDigit = true) : takeSign (c :: cs) = (false, c :: cs) := by
  unfold takeSign
  split
  · next heq => exact absurd (List.cons.inj heq).1 (ne_of_isDigit hc rfl)
  · next heq => exact absurd (List.cons.inj heq).1 (ne_of_isDigit hc rfl)
  · rfl

/-- What stands in front of the digits is taken for the sign they were written with. -/
theorem takeSign_pointed (h : IsPointed whole places) (negative : Bool) :
    takeSign (sign negative ++ (whole ++ '.' :: places)) = (negative, whole ++ '.' :: places) := by
  obtain ⟨c, cs, rfl⟩ := List.exists_cons_of_ne_nil h.whole_ne_nil
  cases negative with
  | true => rfl
  | false => exact takeSign_of_isDigit (h.isDigit_whole c List.mem_cons_self)

/-- Digits are read up to the first character that is none. -/
theorem spanDigits_append {rest : List Char} (h : ∀ c ∈ cs, c.isDigit = true)
    (hc : c.isDigit = false) : spanDigits (cs ++ c :: rest) = (cs, c :: rest) := by
  rw [spanDigits, List.takeWhile_append_of_pos h, List.dropWhile_append_of_pos h,
    List.takeWhile_cons_of_neg (by simp [hc]), List.dropWhile_cons_of_neg (by simp [hc]),
    List.append_nil]

/-- **A numeral with a point is the double nearest to its digits.** -/
theorem parse?_pointed (h : IsPointed whole places) (negative : Bool) :
    parse? (String.ofList (sign negative ++ (whole ++ '.' :: places))) =
      some (signed negative (nearest (ofDigits (whole ++ places)) (-places.length))) := by
  have hmagnitude : magnitude? (whole ++ '.' :: places) =
      some (nearest (ofDigits (whole ++ places)) (-places.length)) := by
    simp only [magnitude?, spanDigits_append h.isDigit_whole (show '.'.isDigit = false from rfl),
      spanDigits_of_all_isDigit h.isDigit_places]
    simp [h.whole_ne_nil, exponent?]
  -- none of the names of doubles has a point
  have hname : ∀ name : List Char, '.' ∉ name →
      String.ofList ((whole ++ '.' :: places).map Char.toLower) ≠ String.ofList name := by
    intro name hname heq
    rw [String.ofList_injective heq |>.symm] at hname
    exact hname (List.mem_map.mpr ⟨'.', by simp, rfl⟩)
  simp only [parse?, String.toList_ofList, takeSign_pointed h, hmagnitude]
  split
  · next heq => exact absurd heq (hname ['i', 'n', 'f'] (by decide))
  · next heq => exact absurd heq (hname ['i', 'n', 'f', 'i', 'n', 'i', 't', 'y'] (by decide))
  · next heq => exact absurd heq (hname ['n', 'a', 'n'] (by decide))
  · rfl

end Tuner.Decimal
