import Mathlib.Data.List.TakeWhile
import Tuner.Proofs.Decimal.InPlace
import Tuner.Proofs.Decimal.NotFinite
import Tuner.Toml.Scalar

/-!
# Numbers are read back

A written number is a bare value, and what a bare value is follows from its characters. With no
colon and a minus only in front it is no date and no time of day. An integer is all digits, and a
double has a character that no integer has: a point, or a letter of its name.

The digits of a finite double stand on both sides of a point, so that a bare value and any other
numeral of these digits name the same double (`digitFloat?_pointed`). That it is the double that was
written is asked for where it is needed (`ReadsBack`). The doubles without digits are read back in
any case.
-/

namespace Tuner.Toml.Scalar

open Decimal

variable {x c : Char} {cs word rest whole places : List Char} {isDigit : Char → Bool} {n : Nat}

/-- A double whose numeral names that double again. -/
def ReadsBack (x : Float) : Prop :=
  Decimal.parse? (floatStyle.render x) = some x

/-! ## Texts cut at a character -/

/-- One more character in front: it cuts, or it belongs to the first part. -/
theorem splitAtChar_cons (x c : Char) (cs : List Char) :
    ∃ part parts, splitAtChar x cs = part :: parts ∧
      splitAtChar x (c :: cs) = if c = x then [] :: part :: parts else (c :: part) :: parts := by
  have hne : splitAtChar x cs ≠ [] := by
    cases cs with
    | nil => exact List.cons_ne_nil _ _
    | cons d ds =>
      rw [splitAtChar]
      split
      · split <;> exact List.cons_ne_nil _ _
      · exact List.cons_ne_nil _ _
  obtain ⟨part, parts, hparts⟩ := List.exists_cons_of_ne_nil hne
  exact ⟨part, parts, hparts, by rw [splitAtChar, hparts]⟩

/-- There is one part more than there are cuts. -/
theorem length_splitAtChar (x : Char) (cs : List Char) :
    (splitAtChar x cs).length = cs.count x + 1 := by
  induction cs with
  | nil => rfl
  | cons c cs ih =>
    obtain ⟨part, parts, hparts, hcons⟩ := splitAtChar_cons x c cs
    rw [hparts] at ih
    rw [hcons]
    by_cases hc : c = x <;> simpa [hc] using ih

theorem splitAtChar_of_notMem (h : x ∉ cs) : splitAtChar x cs = [cs] := by
  induction cs with
  | nil => rfl
  | cons c cs ih =>
    obtain ⟨hc, hcs⟩ := List.ne_and_not_mem_of_not_mem_cons h
    rw [splitAtChar, ih hcs]
    exact if_neg (Ne.symm hc)

/-- Nothing but the cuts gets lost. -/
theorem mem_flatten_splitAtChar (hne : c ≠ x) (hc : c ∈ cs) : c ∈ (splitAtChar x cs).flatten := by
  -- the character is the first one, or it is among the others
  induction cs with
  | nil => cases hc
  | cons d cs ih =>
    obtain ⟨part, parts, hparts, hcons⟩ := splitAtChar_cons x d cs
    rw [hparts, List.flatten_cons] at ih
    rw [hcons]
    rcases List.mem_cons.mp hc with rfl | hc
    · simp [hne]
    · by_cases hd : d = x
      · simpa [hd] using ih hc
      · rw [if_neg hd, List.flatten_cons, List.cons_append]
        exact List.mem_cons_of_mem _ (ih hc)

/-! ## Digits -/

/-- Digits with no line between them are read as they are. -/
theorem digits?_eq_some (hne : cs ≠ []) (h : ∀ c ∈ cs, isDigit c = true) (hline : '_' ∉ cs) :
    digits? isDigit cs = some cs := by
  simpa [digits?, splitAtChar_of_notMem hline, hne] using h

/-- One character that is neither a digit nor a line is enough to have no digits. -/
theorem digits?_eq_none (hc : c ∈ cs) (hdigit : isDigit c = false) (hline : c ≠ '_') :
    digits? isDigit cs = none := by
  refine if_neg fun hall => ?_
  obtain ⟨part, hpart, hmem⟩ := List.mem_flatten.mp (mem_flatten_splitAtChar hline hc)
  have hdigits := (Bool.and_eq_true_iff.mp (List.all_eq_true.mp hall part hpart)).2
  rw [List.all_eq_true.mp hdigits c hmem] at hdigit
  cases hdigit

/-! ## Dates and times -/

theorem isDate_eq_false (h : cs.count '-' ≤ 1) : isDate cs = false := by
  have hlength := length_splitAtChar '-' cs
  unfold isDate
  split
  · next hparts =>
    rw [hparts] at hlength
    simp only [List.length_cons, List.length_nil] at hlength
    -- three parts would need two cuts
    omega
  · rfl

theorem isTime_eq_false (h : ':' ∉ cs) : isTime cs = false := by
  rw [isTime, splitAtChar_of_notMem h]

/-- A bare value with no colon and at most one minus is neither a date nor a time of day. -/
theorem isDateTime_eq_false (hminus : cs.count '-' ≤ 1) (hcolon : ':' ∉ cs) :
    isDateTime cs = false := by
  -- the date would be the first ten characters
  have hdate : isDate (cs.take 10) = false :=
    isDate_eq_false (Nat.le_trans ((List.take_sublist 10 cs).count_le '-') hminus)
  simp only [isDateTime, hdate, isTime_eq_false hcolon]
  cases cs.drop 10 <;> rfl

/-! ## Bare values -/

/-- A bare value ends at the end of the line. -/
theorem read?_word (h : ∀ c ∈ word, isBare c = true) :
    read? (word ++ '\n' :: rest) = (ofBare? word).map (·, '\n' :: rest) := by
  have htake : (word ++ '\n' :: rest).takeWhile isBare = word := by
    rw [List.takeWhile_append_of_pos h]
    exact List.append_nil word
  have hdrop : (word ++ '\n' :: rest).dropWhile isBare = '\n' :: rest := by
    rw [List.dropWhile_append_of_pos h]
    rfl
  simp [read?, htake, hdrop]

/-- A character of a written number. -/
def isNumeral (c : Char) : Bool :=
  c.isDigit || c == '-' || c == '.' || c == 'n' || c == 'a' || c == 'i' || c == 'f'

theorem isBare_of_isNumeral (h : isNumeral c = true) : isBare c = true := by
  simp only [isNumeral, Bool.or_eq_true, beq_iff_eq] at h
  rcases h with (((((h | rfl) | rfl) | rfl) | rfl) | rfl) | rfl
  · simp [isBare, Char.isAlphanum, h]
  all_goals rfl

/-- What a bare value with the characters of a number is. -/
theorem ofBare?_numeral (h : ∀ c ∈ word, isNumeral c = true) (hminus : word.count '-' ≤ 1) :
    ofBare? word = (integer? word).or (float? word) := by
  have hnot : ∀ c, isNumeral c = false → c ∉ word := fun c hc hmem => by simp [h c hmem] at hc
  have htrue : word ≠ ['t', 'r', 'u', 'e'] := fun heq => hnot 't' rfl (by simp [heq])
  have hfalse : word ≠ ['f', 'a', 'l', 's', 'e'] := fun heq => hnot 'l' rfl (by simp [heq])
  rw [ofBare?, if_neg htrue, if_neg hfalse, isDateTime_eq_false hminus (hnot ':' rfl),
    if_neg (by decide)]

/-! ## Integers -/

theorem notMem_toDigits (h : c.isDigit = false) : c ∉ Nat.toDigits 10 n := fun hmem =>
  ne_of_isDigit (isDigit_of_mem_toDigits hmem) h rfl

theorem takeSign_toDigits (n : Nat) :
    takeSign (Nat.toDigits 10 n) = (false, Nat.toDigits 10 n) := by
  obtain ⟨c, cs, hcons⟩ := List.exists_cons_of_ne_nil (Nat.toDigits_ne_nil (n := n) (b := 10))
  rw [hcons]
  exact takeSign_of_isDigit (isDigit_of_mem_toDigits (n := n) (hcons ▸ List.mem_cons_self))

/-- Digits are read if the first one is no needless zero. -/
theorem wholeDigits?_eq_some (hne : cs ≠ []) (h : ∀ c ∈ cs, c.isDigit = true)
    (hfront : cs.head? ≠ some '0' ∨ cs.length = 1) : wholeDigits? cs = some cs := by
  have hline : '_' ∉ cs := fun hmem => absurd (h '_' hmem) (by decide)
  rw [wholeDigits?, digits?_eq_some hne h hline]
  rcases hfront with hhead | hlength
  · simp [Option.filter, hhead]
  · simp [Option.filter, hlength]

/-- The digits of a number have no needless zero. -/
theorem wholeDigits?_toDigits (n : Nat) :
    wholeDigits? (Nat.toDigits 10 n) = some (Nat.toDigits 10 n) := by
  refine wholeDigits?_eq_some Nat.toDigits_ne_nil (fun c hc => isDigit_of_mem_toDigits hc) ?_
  rcases Nat.eq_zero_or_pos n with rfl | hpos
  · exact .inr rfl
  · exact .inl (Number.head?_toDigits hpos)

/-- Digits alone are read in base ten. -/
theorem integer?_toDigits_eq (n : Nat) : integer? (Nat.toDigits 10 n) = fitting? n := by
  have hother : ∀ d c cs, c.isDigit = false → Nat.toDigits 10 n ≠ d :: c :: cs :=
    fun d c cs hc heq => notMem_toDigits (n := n) hc (heq ▸ by simp)
  unfold integer?
  split
  · next heq => exact absurd heq (hother _ _ _ rfl)
  · next heq => exact absurd heq (hother _ _ _ rfl)
  · next heq => exact absurd heq (hother _ _ _ rfl)
  · have hvalue : ofDigits (Nat.toDigits 10 n) = n := Nat.ofDigitChars_ten_toDigits
    rw [takeSign_toDigits]
    show (wholeDigits? (Nat.toDigits 10 n)).bind _ = _
    rw [wholeDigits?_toDigits, Option.bind_some, hvalue, if_neg Bool.false_ne_true]

/-- The digits of an integer that fits are that integer. -/
theorem integer?_toDigits (h : n < Word.signedLimit) :
    integer? (Nat.toDigits 10 n) = some (.integer n) := by
  rw [integer?_toDigits_eq]
  exact if_pos ⟨by omega, Int.ofNat_lt.mpr h⟩

/-- **A written integer is read back.** -/
theorem read?_writeInteger (h : n < Word.signedLimit) :
    read? (writeInteger n ++ '\n' :: rest) = some (.integer n, '\n' :: rest) := by
  have hchars : writeInteger n = Nat.toDigits 10 n := Number.integerChars_natCast n
  have hnumeral : ∀ c ∈ Nat.toDigits 10 n, isNumeral c = true := fun c hc => by
    simp [isNumeral, isDigit_of_mem_toDigits hc]
  have hminus : (Nat.toDigits 10 n).count '-' = 0 := List.count_eq_zero.mpr fun hmem => by
    simpa using isDigit_of_mem_toDigits hmem
  rw [hchars, read?_word fun c hc => isBare_of_isNumeral (hnumeral c hc),
    ofBare?_numeral hnumeral (by omega), integer?_toDigits h]
  rfl

/-! ## Doubles -/

/-- A character that stands in no integer, whatever its base, keeps a text from being one. -/
theorem integer?_eq_none (hc : c ∈ cs) (hmark : c = '.' ∨ c = 'n') : integer? cs = none := by
  -- in no base is the mark a digit
  have hbase : ∀ base ds, c ∈ ds → inBase? base ds = none := by
    intro base ds hmem
    have hdigit : isDigitIn base c = false := by rcases hmark with rfl | rfl <;> rfl
    rw [inBase?, digits?_eq_none hmem hdigit (by rcases hmark with rfl | rfl <;> decide)]
    rfl
  have hwhole : ∀ ds, c ∈ ds → wholeDigits? ds = none := by
    intro ds hmem
    have hdigit : c.isDigit = false := by rcases hmark with rfl | rfl <;> rfl
    rw [wholeDigits?, digits?_eq_none hmem hdigit (by rcases hmark with rfl | rfl <;> decide)]
    rfl
  have hsign : c ∈ (takeSign cs).2 := by
    unfold takeSign
    split
    · rcases hmark with rfl | rfl <;> simpa using hc
    · rcases hmark with rfl | rfl <;> simpa using hc
    · exact hc
  unfold integer?
  split
  · exact hbase _ _ (by rcases hmark with rfl | rfl <;> simpa using hc)
  · exact hbase _ _ (by rcases hmark with rfl | rfl <;> simpa using hc)
  · exact hbase _ _ (by rcases hmark with rfl | rfl <;> simpa using hc)
  · simp [hwhole _ hsign]

/-- What a double looks like: behind the sign there is no other one, and there is a point or a
letter. -/
structure IsDouble (cs : List Char) : Prop where
  numeral : ∀ c ∈ cs, isNumeral c = true
  minus : cs.count '-' ≤ 1
  mark : ∃ c ∈ cs, c = '.' ∨ c = 'n'

/-- A sign in front makes no difference. -/
theorem isDouble_sign (negative : Bool) (hall : cs.all (fun c => isNumeral c && c != '-') = true)
    (hmark : ∃ c ∈ cs, c = '.' ∨ c = 'n') : IsDouble (sign negative ++ cs) := by
  have h : ∀ c ∈ cs, isNumeral c = true ∧ c ≠ '-' := by simpa using hall
  have hminus : cs.count '-' = 0 := List.count_eq_zero.mpr fun hmem => (h '-' hmem).2 rfl
  obtain ⟨c, hc, hmark⟩ := hmark
  refine ⟨fun c hc => ?_, ?_, c, List.mem_append_right _ hc, hmark⟩
  · rcases List.mem_append.mp hc with hsign | hc
    · cases negative with
      | true =>
        obtain rfl := List.mem_singleton.mp hsign
        rfl
      | false => cases hsign
    · exact (h c hc).1
  · rw [List.count_append, hminus]
    cases negative <;> decide

/-- Digits on both sides of a point look like a double. -/
theorem isDouble_pointed (h : IsPointed whole places) (negative : Bool) :
    IsDouble (sign negative ++ (whole ++ '.' :: places)) := by
  have hdigit : ∀ c, c.isDigit = true → (isNumeral c && c != '-') = true := fun c hc => by
    simp [isNumeral, hc, ne_of_isDigit hc (show '-'.isDigit = false from rfl)]
  refine isDouble_sign negative (List.all_eq_true.mpr fun c hc => ?_) ⟨'.', by simp, .inl rfl⟩
  rcases List.mem_append.mp hc with hc | hc
  · exact hdigit c (h.isDigit_whole c hc)
  · rcases List.mem_cons.mp hc with rfl | hc
    · rfl
    · exact hdigit c (h.isDigit_places c hc)

/-- **Every written double looks like one**, be it in digits or by name. -/
theorem isDouble_writeFloat (x : Float) : IsDouble (writeFloat x) := by
  unfold writeFloat
  cases Binary.ofFloat x with
  | nan => exact isDouble_sign false (by decide) ⟨'n', by decide, .inr rfl⟩
  | infinite negative => exact isDouble_sign negative (by decide) ⟨'n', by decide, .inr rfl⟩
  | finite negative m q =>
    obtain ⟨whole, places, hpointed, hchars⟩ :=
      exists_pointed_chars floatStyle rfl (fun _ => rfl) negative m q
    rw [hchars]
    exact isDouble_pointed hpointed negative

/-- Digits on both sides of a point name the same double as they do elsewhere. -/
theorem digitFloat?_pointed (h : IsPointed whole places) (negative : Bool) :
    digitFloat? (sign negative ++ (whole ++ '.' :: places)) =
      some (signed negative (nearest (ofDigits (whole ++ places)) (-places.length))) := by
  have hwhole : ∀ c ∈ whole, (c != '.') = true := fun c hc => by
    simpa using ne_of_isDigit (h.isDigit_whole c hc) rfl
  have hmark : ∀ c, c.isDigit = true → (!isPowerMark c) = true := fun c hc => by
    simp [isPowerMark, ne_of_isDigit hc (show 'e'.isDigit = false from rfl),
      ne_of_isDigit hc (show 'E'.isDigit = false from rfl)]
  have hmantissa : ∀ c ∈ whole ++ '.' :: places, (!isPowerMark c) = true := by
    refine List.forall_mem_append.mpr ⟨fun c hc => hmark c (h.isDigit_whole c hc), ?_⟩
    exact List.forall_mem_cons.mpr ⟨rfl, fun c hc => hmark c (h.isDigit_places c hc)⟩
  have hread := wholeDigits?_eq_some h.whole_ne_nil h.isDigit_whole h.front
  have hplaces : digits? Char.isDigit places = some places :=
    digits?_eq_some h.places_ne_nil h.isDigit_places fun hmem =>
      ne_of_isDigit (h.isDigit_places '_' hmem) rfl rfl
  simp only [digitFloat?, takeSign_pointed h, List.takeWhile_eq_self_iff.mpr hmantissa,
    List.dropWhile_eq_nil_iff.mpr hmantissa, List.takeWhile_append_of_pos hwhole,
    List.dropWhile_append_of_pos hwhole]
  simp [hread, hplaces, power?]

/-- Digits on both sides of a point are the double that they name, if it is finite. -/
theorem float?_pointed {y : Float} (h : IsPointed whole places) (negative : Bool)
    (hparse : Decimal.parse? (String.ofList (sign negative ++ (whole ++ '.' :: places))) = some y)
    (hfinite : y ≠ infinity) :
    float? (sign negative ++ (whole ++ '.' :: places)) = some (.float y) := by
  have hname : ∀ name : List Char, '.' ∉ name → whole ++ '.' :: places ≠ name := by
    rintro name hname rfl
    exact hname (by simp)
  have hsize : (y == infinity) = false :=
    Bool.eq_false_iff.mpr fun hbeq => hfinite (eq_infinity_of_beq hbeq)
  rw [parse?_pointed h] at hparse
  simp only [float?, takeSign_pointed h, digitFloat?_pointed h, hparse]
  rw [if_neg (hname _ (by decide)), if_neg (hname _ (by decide))]
  simp [Option.filter, hsize]

/-- A double whose numeral is read back is read back as a bare value. -/
theorem float?_writeFloat {x : Float} (h : ReadsBack x) :
    float? (writeFloat x) = some (.float x) := by
  unfold ReadsBack Style.render at h
  cases hx : Binary.ofFloat x with
  | nan =>
    rw [hx] at h
    obtain rfl : notANumber = x := Option.some.inj h
    rw [writeFloat, hx]
    rfl
  | infinite negative =>
    rw [hx] at h
    rw [writeFloat, hx]
    cases negative with
    | false =>
      obtain rfl : infinity = x := Option.some.inj h
      rfl
    | true =>
      obtain rfl : -infinity = x := Option.some.inj h
      rfl
  | finite negative m q =>
    obtain ⟨whole, places, hpointed, hchars⟩ :=
      exists_pointed_chars floatStyle rfl (fun _ => rfl) negative m q
    -- the numeral of an infinite double has no digits
    have hfinite : x ≠ infinity := by
      rintro rfl
      exact absurd hx (by simp [show Binary.ofFloat infinity = .infinite false by decide +kernel])
    rw [hx, hchars] at h
    rw [writeFloat, hx, hchars]
    exact float?_pointed hpointed negative h hfinite

/-- The doubles without digits are read back. -/
theorem readsBack_of_isFinite_eq_false {x : Float} (h : x.isFinite = false) : ReadsBack x := by
  have hnan : floatStyle.render notANumber = "nan" := by decide +kernel
  have hinfinity : floatStyle.render infinity = "inf" := by decide +kernel
  have hnegative : floatStyle.render (-infinity) = "-inf" := by decide +kernel
  obtain rfl | rfl | rfl := eq_of_isFinite_eq_false h
  · rw [ReadsBack, hnan]
    rfl
  · rw [ReadsBack, hinfinity]
    rfl
  · rw [ReadsBack, hnegative]
    rfl

/-- **A written double is read back** if its numeral is. -/
theorem read?_writeFloat {x : Float} (h : ReadsBack x) :
    read? (writeFloat x ++ '\n' :: rest) = some (.float x, '\n' :: rest) := by
  obtain ⟨hnumeral, hminus, c, hc, hmark⟩ := isDouble_writeFloat x
  rw [read?_word fun c hc => isBare_of_isNumeral (hnumeral c hc), ofBare?_numeral hnumeral hminus,
    integer?_eq_none hc hmark, float?_writeFloat h]
  rfl

end Tuner.Toml.Scalar
