import Mathlib.Data.List.TakeWhile
import Tuner.Json.Token
import Tuner.Proofs.Json.Shape

/-!
# Numbers and their text

What the reader of numbers needs to know of what it reads and of what was printed:

* **`ofChars?_integerChars`** — an integer in range reads back. The digits of a number below 2⁶⁴ are
  gathered without a rest (`gather_eq`), and no digit of a printed number is needless
  (`head?_toDigits`).
* **`inRange_of_ofChars?`** — whatever is read is in range, since gathering stops below 2⁶⁴.
* **`isBare_of_ofChars?`** — a text that reads as a number is a bare word. Of a printed double
  nothing more needs to be known to find it again among the tokens of a text.

Doubles have no law of the kind of the first one: reading rounds twice for some of them, so that
`ReadsBack` is asked of each double where it is needed.
-/

namespace Tuner.Number

open Decimal

/-- A number whose text is read as that number again. -/
def ReadsBack (n : Number) : Prop :=
  ofChars? n.chars = some n

/-! ## Digits -/

/-- The digits of a positive number start with none that is needless. Induction on the number: all
digits but the last are the digits of a tenth of it. -/
theorem head?_toDigits {n : Nat} (h : 0 < n) : (Nat.toDigits 10 n).head? ≠ some '0' := by
  induction n using Nat.strongRecOn with
  | ind n ih =>
    by_cases hlt : n < 10
    · rw [Nat.toDigits_of_lt_base hlt]
      have hdigit : ∀ k < 10, 0 < k → Nat.digitChar k ≠ '0' := by decide
      simpa using hdigit n hlt h
    · have htenth := ih (n / 10) (by omega) (by omega)
      obtain ⟨d, ds, hcons⟩ :=
        List.exists_cons_of_ne_nil (Nat.toDigits_ne_nil (n := n / 10) (b := 10))
      rw [Nat.toDigits_of_base_le (by decide) (by omega), hcons]
      rw [hcons] at htenth
      simpa using htenth

theorem spanDigits_of_all_isDigit {cs : List Char} (h : ∀ c ∈ cs, c.isDigit) :
    spanDigits cs = (cs, []) := by
  rw [spanDigits, List.takeWhile_eq_self_iff.mpr h, List.dropWhile_eq_nil_iff.mpr h]

theorem le_ofDigitChars (ds : List Char) (s : Nat) : s ≤ Nat.ofDigitChars 10 ds s := by
  rw [Nat.ofDigitChars_eq_ofDigitChars_zero]
  have hpow : 0 < 10 ^ ds.length := Nat.pow_pos (by decide)
  have := Nat.le_mul_of_pos_left s hpow
  omega

/-- Digits of a number that fits are gathered without a rest. -/
theorem gather_eq {ds : List Char} {s : Nat} (h : Nat.ofDigitChars 10 ds s < Word.limit) :
    gather s ds = (Nat.ofDigitChars 10 ds s, []) := by
  induction ds generalizing s with
  | nil => simp [gather]
  | cons d ds ih =>
    rw [Nat.ofDigitChars_cons] at h ⊢
    have hnext : 10 * s + digitValue d < Word.limit := Nat.lt_of_le_of_lt (le_ofDigitChars ds _) h
    rw [gather, if_pos hnext]
    exact ih h

/-- What is gathered stays below 2⁶⁴, since a digit that would lead beyond it is not taken. -/
theorem gather_fst_lt {ds : List Char} {s : Nat} (h : s < Word.limit) :
    (gather s ds).1 < Word.limit := by
  induction ds generalizing s with
  | nil => exact h
  | cons d ds ih =>
    rw [gather]
    split
    · next hnext => exact ih hnext
    · exact h

/-! ## Integers read back -/

/-- Behind the sign, digits alone are read as a whole number. -/
theorem ofUnsigned?_toDigits (negative : Bool) (n : Nat) :
    ofUnsigned? negative (Nat.toDigits 10 n) = ofWhole? negative (Nat.toDigits 10 n) := by
  have hspan : spanDigits (Nat.toDigits 10 n) = (Nat.toDigits 10 n, []) :=
    spanDigits_of_all_isDigit fun c hc => Nat.isDigit_of_mem_toDigits (by decide) (by decide) hc
  have hne : (Nat.toDigits 10 n).isEmpty = false :=
    List.isEmpty_eq_false_iff.mpr Nat.toDigits_ne_nil
  have hzero : ((Nat.toDigits 10 n).head? == some '0' && Nat.toDigits 10 n ≠ ['0']) = false := by
    rcases Nat.eq_zero_or_pos n with rfl | hpos
    · simp
    · simp [head?_toDigits hpos]
  simp only [ofUnsigned?, hspan]
  rw [hne, hzero]
  rfl

theorem ofChars?_toDigits (n : Nat) :
    ofChars? (Nat.toDigits 10 n) = ofUnsigned? false (Nat.toDigits 10 n) := by
  -- a minus is no digit
  have hsign : (Nat.toDigits 10 n).head? ≠ some '-' := by
    intro hhead
    have hdigit := Nat.isDigit_of_mem_toDigits (b := 10) (n := n) (by decide) (by decide)
      (List.mem_of_mem_head? hhead)
    exact absurd hdigit (by decide)
  unfold ofChars?
  split
  · next heq => simp [heq] at hsign
  · rfl

theorem integerChars_natCast (m : Nat) : integerChars m = Nat.toDigits 10 m := by
  rw [integerChars, decide_eq_false (show ¬ (m : Int) < 0 by omega), Int.natAbs_natCast]
  rfl

/-- A negative number is a minus and the digits of its magnitude. -/
theorem integerChars_neg {m : Nat} (h : 0 < m) :
    integerChars (-(m : Int)) = '-' :: Nat.toDigits 10 m := by
  rw [integerChars, decide_eq_true (show -(m : Int) < 0 by omega), Int.natAbs_neg,
    Int.natAbs_natCast]
  rfl

/-- The digits of a number that fits are gathered to that number. -/
theorem gather_toDigits {m : Nat} (h : m < Word.limit) :
    gather 0 (Nat.toDigits 10 m) = (m, []) := by
  have hvalue := Nat.ofDigitChars_ten_toDigits (n := m)
  rw [gather_eq (by rw [hvalue]; exact h), hvalue]

/-- **Integers read back.** Behind a minus stands a magnitude that is not zero, since zero has no
sign. -/
theorem ofChars?_integerChars {n : Int} (h : InRange (.integer n)) :
    ofChars? (integerChars n) = some (.integer n) := by
  obtain ⟨hlow, hhigh⟩ := h
  have hlimit := Word.limit_eq
  by_cases hneg : n < 0
  · obtain ⟨m, rfl⟩ := Int.exists_eq_neg_ofNat (Int.le_of_lt hneg)
    have hpos : 0 < m := by omega
    have hfits : m ≤ Word.signedLimit := by omega
    have hsize : (decide (m ≠ 0) && decide (m ≤ Word.signedLimit)) = true := by
      simp [hfits, Nat.ne_of_gt hpos]
    rw [integerChars_neg hpos, ofChars?, ofUnsigned?_toDigits, ofWhole?,
      gather_toDigits (by omega)]
    exact if_pos hsize
  · obtain ⟨m, rfl⟩ := Int.eq_ofNat_of_zero_le (Int.not_lt.mp hneg)
    have hfits : m < Word.limit := by omega
    rw [integerChars_natCast, ofChars?_toDigits, ofUnsigned?_toDigits, ofWhole?,
      gather_toDigits hfits]
    rfl

/-! ## What is read is in range -/

/-- A whole number that does not fit, with its sign, is read as a double. -/
theorem inRange_of_ofWhole? {negative : Bool} {whole : List Char} {n : Number}
    (h : ofWhole? negative whole = some n) : n.InRange := by
  have hlt : (gather 0 whole).1 < Word.limit := gather_fst_lt (by decide)
  simp only [ofWhole?] at h
  split at h
  · obtain rfl := Option.some.inj h
    simp only [InRange]
    omega
  · split at h
    · next hsigned =>
        obtain rfl := Option.some.inj h
        -- the magnitude of a negative number may be 2⁶³ at most
        simp only [Bool.and_eq_true, decide_eq_true_eq] at hsigned
        simp only [InRange]
        omega
    · obtain ⟨x, -, rfl⟩ := Option.map_eq_some_iff.mp h
      trivial

theorem inRange_of_ofPlaces? {negative : Bool} {whole places : List Char} {e : Int} {n : Number}
    (h : ofPlaces? negative whole places e = some n) : n.InRange := by
  simp only [ofPlaces?] at h
  obtain ⟨x, -, rfl⟩ := Option.map_eq_some_iff.mp h
  trivial

theorem inRange_of_ofUnsigned? {negative : Bool} {cs : List Char} {n : Number}
    (h : ofUnsigned? negative cs = some n) : n.InRange := by
  simp only [ofUnsigned?] at h
  split at h
  · exact absurd h (by simp)
  · split at h
    · exact inRange_of_ofWhole? h
    · split at h
      · exact absurd h (by simp)
      · obtain ⟨e, -, h⟩ := Option.bind_eq_some_iff.mp h
        exact inRange_of_ofPlaces? h
    · obtain ⟨e, -, h⟩ := Option.bind_eq_some_iff.mp h
      exact inRange_of_ofPlaces? h

/-- **What is read is in range.** -/
theorem inRange_of_ofChars? {cs : List Char} {n : Number} (h : ofChars? cs = some n) :
    n.InRange := by
  unfold ofChars? at h
  split at h
  · exact inRange_of_ofUnsigned? h
  · exact inRange_of_ofUnsigned? h

/-! ## What is read is a bare word -/

open Json.Token (isBare)

theorem isBare_of_isDigit {c : Char} (h : c.isDigit) : isBare c := by
  simp [isBare, Char.isAlphanum, h]

/-- Digits are characters of words, so only what is behind them is in question. -/
theorem isBare_of_mem_spanDigits {cs : List Char} (h : ∀ c ∈ (spanDigits cs).2, isBare c) :
    ∀ c ∈ cs, isBare c := by
  intro c hc
  rw [← List.takeWhile_append_dropWhile (p := Char.isDigit) (l := cs)] at hc
  rcases List.mem_append.mp hc with hdigit | hrest
  · exact isBare_of_isDigit (List.mem_takeWhile_imp hdigit)
  · exact h c hrest

/-- A power of ten is a letter and digits, perhaps with a sign. -/
theorem isBare_of_exponent? {cs : List Char} {e : Int} (h : exponent? cs = some e) :
    ∀ c ∈ cs, isBare c := by
  cases cs with
  | nil => simp
  | cons mark cs =>
    simp only [exponent?] at h
    split at h
    · next hshape =>
        simp only [Bool.and_eq_true, Bool.or_eq_true, decide_eq_true_eq, List.all_eq_true] at hshape
        obtain ⟨⟨hmark, -⟩, hdigits⟩ := hshape
        have hmark : isBare mark := by rcases hmark with rfl | rfl <;> rfl
        refine List.forall_mem_cons.mpr ⟨hmark, ?_⟩
        -- what follows the mark is digits, but for a sign that `takeSign` takes away
        unfold takeSign at hdigits
        split at hdigits
        · exact List.forall_mem_cons.mpr ⟨rfl, fun c hc => isBare_of_isDigit (hdigits c hc)⟩
        · exact List.forall_mem_cons.mpr ⟨rfl, fun c hc => isBare_of_isDigit (hdigits c hc)⟩
        · exact fun c hc => isBare_of_isDigit (hdigits c hc)
    · exact absurd h (by simp)

/-- Digits, a point with digits behind it, and a power of ten are all there may be. -/
theorem isBare_of_ofUnsigned? {negative : Bool} {cs : List Char} {n : Number}
    (h : ofUnsigned? negative cs = some n) : ∀ c ∈ cs, isBare c := by
  refine isBare_of_mem_spanDigits ?_
  simp only [ofUnsigned?] at h
  split at h
  · exact absurd h (by simp)
  · split at h
    · next heq => simp [heq]
    · next rest heq =>
        rw [heq]
        refine List.forall_mem_cons.mpr ⟨rfl, isBare_of_mem_spanDigits ?_⟩
        split at h
        · exact absurd h (by simp)
        · obtain ⟨e, he, -⟩ := Option.bind_eq_some_iff.mp h
          exact isBare_of_exponent? he
    · obtain ⟨e, he, -⟩ := Option.bind_eq_some_iff.mp h
      exact isBare_of_exponent? he

/-- **What reads as a number is a bare word.** -/
theorem isBare_of_ofChars? {cs : List Char} {n : Number} (h : ofChars? cs = some n) :
    ∀ c ∈ cs, isBare c := by
  unfold ofChars? at h
  split at h
  · exact List.forall_mem_cons.mpr ⟨rfl, isBare_of_ofUnsigned? h⟩
  · exact isBare_of_ofUnsigned? h

end Tuner.Number
