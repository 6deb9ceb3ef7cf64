import Tuner.Proofs.Toml.Quoted
import Tuner.Proofs.Toml.Scalar
import Tuner.Toml.Reader

/-!
# Lines are read back

A written document has three kinds of line: headers, keys with a value, and empty lines. Each is
read by one step of `lines?`, which leaves the rest of the document as it was. `Denotes` is what the
step for a key asks of the text behind the equals sign: it is read as a value up to the line break.
The texts of strings, integers and doubles are of this kind.
-/

namespace Tuner.Toml

variable {text cs rest : List Char} {c : Char} {v : Value} {key name s : String}
variable {fuel depth n : Nat} {d d' : Document}

/-! ## Values -/

/-- A text that stands for a value up to the end of its line. -/
structure Denotes (text : List Char) (v : Value) : Prop where
  head : ∀ rest, skipBlanks (text ++ '\n' :: rest) = text ++ '\n' :: rest
  read : ∀ fuel depth rest,
    value? (fuel + 1) depth (text ++ '\n' :: rest) = some (v, '\n' :: rest)

theorem skipBlanks_cons (hspace : c ≠ ' ') (htab : c ≠ '\t') : skipBlanks (c :: cs) = c :: cs := by
  simp [skipBlanks, hspace, htab]

/-- A string is read up to its closing quotes, whichever form it has. -/
theorem denotes_string (s : String) : Denotes (QuotedText.write s) (.string s) := by
  have hopen : ∀ rest, ∃ q tail, QuotedText.open? (QuotedText.write s ++ '\n' :: rest) =
      some (q, tail) ∧ q.read tail = some (s, '\n' :: rest) :=
    fun rest => QuotedText.read_write s ⟨by simp, by simp [QuotedText.apostrophe]⟩
  refine ⟨fun rest => ?_, fun fuel depth rest => ?_⟩
  · obtain ⟨q, tail, h, -⟩ := hopen rest
    -- What opens a string is no blank.
    unfold QuotedText.open? at h
    split at h
    · next heq => rw [heq]; rfl
    · next heq => rw [heq]; rfl
    · next heq => rw [heq]; rfl
    · next heq => rw [heq]; rfl
    · cases h
  · obtain ⟨q, tail, h, hread⟩ := hopen rest
    unfold value?
    rw [h]
    simp only [hread, Option.map_some]

/-- A character of numerals opens no string, no array and no table. -/
theorem value?_numeral (hc : Scalar.isNumeral c = true) :
    value? (fuel + 1) depth (c :: cs) = Scalar.read? (c :: cs) := by
  have hnot : ∀ x, Scalar.isNumeral x = false → c ≠ x := fun x hx heq => by simp [← heq, hc] at hx
  have hopen : QuotedText.open? (c :: cs) = none := by
    unfold QuotedText.open?
    split
    · next heq => exact absurd (List.cons.inj heq).1 (hnot '"' rfl)
    · next heq => exact absurd (List.cons.inj heq).1 (hnot '"' rfl)
    · next heq => exact absurd (List.cons.inj heq).1 (hnot '\x27' rfl)
    · next heq => exact absurd (List.cons.inj heq).1 (hnot '\x27' rfl)
    · rfl
  unfold value?
  rw [hopen]
  split
  · next heq => cases heq
  · split
    · next heq => exact absurd (List.cons.inj heq).1 (hnot '[' rfl)
    · next heq => exact absurd (List.cons.inj heq).1 (hnot '\x7b' rfl)
    · rfl

/-- A numeral that is read back as a bare value stands for it. -/
theorem denotes_numeral (hne : text ≠ []) (h : ∀ c ∈ text, Scalar.isNumeral c = true)
    (hread : ∀ rest, Scalar.read? (text ++ '\n' :: rest) = some (v, '\n' :: rest)) :
    Denotes text v := by
  obtain ⟨c, cs, rfl⟩ := List.exists_cons_of_ne_nil hne
  have hc := h c List.mem_cons_self
  refine ⟨fun rest => skipBlanks_cons ?_ ?_, fun fuel depth rest => ?_⟩
  · rintro rfl
    cases hc
  · rintro rfl
    cases hc
  · exact (value?_numeral hc).trans (hread rest)

/-- A natural number of 63 bits stands for itself. -/
theorem denotes_integer (h : n < Word.signedLimit) :
    Denotes (Scalar.writeInteger n) (.integer n) := by
  have hchars : Scalar.writeInteger n = Nat.toDigits 10 n := Number.integerChars_natCast n
  refine denotes_numeral ?_ (fun c hc => ?_) fun rest => Scalar.read?_writeInteger h
  · rw [hchars]
    exact Nat.toDigits_ne_nil
  · rw [hchars] at hc
    simp [Scalar.isNumeral, Decimal.isDigit_of_mem_toDigits hc]

/-- A double stands for itself if its numeral does. -/
theorem denotes_float {x : Float} (h : Scalar.ReadsBack x) :
    Denotes (Scalar.writeFloat x) (.float x) := by
  obtain ⟨hnumeral, -, c, hc, -⟩ := Scalar.isDouble_writeFloat x
  exact denotes_numeral (List.ne_nil_of_mem hc) hnumeral fun rest => Scalar.read?_writeFloat h

/-! ## Keys -/

/-- A name that can stand for itself as a key. -/
structure IsKey (name : String) : Prop where
  nonempty : name ≠ ""
  chars : name.toList.all isKeyChar = true

instance (name : String) : Decidable (IsKey name) :=
  decidable_of_iff (name ≠ "" ∧ name.toList.all isKeyChar = true)
    ⟨fun h => ⟨h.1, h.2⟩, fun h => ⟨h.nonempty, h.chars⟩⟩

/-- A key has a first character, which is none of those that mean something else at the start of a
line. -/
theorem IsKey.exists_cons (h : IsKey key) :
    ∃ x xs, key.toList = x :: xs ∧ ∀ y, isKeyChar y = false → x ≠ y := by
  have hne : key.toList ≠ [] := fun hnil => h.nonempty (String.toList_eq_nil_iff.mp hnil)
  obtain ⟨x, xs, hcons⟩ := List.exists_cons_of_ne_nil hne
  refine ⟨x, xs, hcons, ?_⟩
  rintro y hy rfl
  have hx := List.all_eq_true.mp h.chars x (hcons ▸ List.mem_cons_self)
  simp [hx] at hy

theorem IsKey.skipBlanks (h : IsKey key) (tail : List Char) :
    Toml.skipBlanks (key.toList ++ tail) = key.toList ++ tail := by
  obtain ⟨x, xs, hcons, hx⟩ := h.exists_cons
  rw [hcons]
  exact skipBlanks_cons (hx ' ' rfl) (hx '\t' rfl)

theorem keyPart?_isKey (h : IsKey key) (hc : isKeyChar c = false) :
    keyPart? (key.toList ++ c :: cs) = some (key, c :: cs) := by
  have hchars : ∀ x ∈ key.toList, isKeyChar x = true := List.all_eq_true.mp h.chars
  have htake : (key.toList ++ c :: cs).takeWhile isKeyChar = key.toList := by
    rw [List.takeWhile_append_of_pos hchars, List.takeWhile_cons_of_neg (by simp [hc]),
      List.append_nil]
  have hdrop : (key.toList ++ c :: cs).dropWhile isKeyChar = c :: cs := by
    rw [List.dropWhile_append_of_pos hchars, List.dropWhile_cons_of_neg (by simp [hc])]
  obtain ⟨x, xs, hcons, hx⟩ := h.exists_cons
  unfold keyPart?
  split
  · next heq =>
    rw [hcons] at heq
    exact absurd (List.cons.inj heq).1 (hx '"' rfl)
  · next heq =>
    rw [hcons] at heq
    exact absurd (List.cons.inj heq).1 (hx '\x27' rfl)
  · simp [htake, hdrop, h.nonempty]

/-- A key is read up to the character that ends it, and the blanks behind it do not count. -/
theorem key?_isKey (h : IsKey key) (hc : isKeyChar c = false)
    (hdot : ∀ tail, skipBlanks (c :: cs) ≠ '.' :: tail) :
    key? (key.toList ++ c :: cs) = some ([], key, skipBlanks (c :: cs)) := by
  have hparts : keyParts? ((key.toList ++ c :: cs).length + 1) (key.toList ++ c :: cs) =
      some ([key], skipBlanks (c :: cs)) := by
    rw [keyParts?, h.skipBlanks, keyPart?_isKey h hc]
    dsimp only
    split
    · next heq => exact absurd heq (hdot _)
    · rfl
  rw [key?, hparts]
  rfl

/-! ## Lines -/

/-- A line that is not empty is one statement. -/
theorem lines?_step (hend : lineEnd? cs = none)
    (h : statement? (fuel + 1) d (skipBlanks cs) = some (d', '\n' :: rest)) :
    lines? (fuel + 1) d cs = lines? fuel d' rest := by
  cases cs with
  | nil => cases hend
  | cons c cs =>
    have hbreak : lineEnd? ('\n' :: rest) = some rest := rfl
    rw [lines?, hend]
    · simp only [h, hbreak]
    · exact fun hnil => nomatch hnil

theorem lines?_empty : lines? (fuel + 1) d ('\n' :: rest) = lines? fuel d rest := rfl

/-- The header of a table opens it. -/
theorem lines?_header (hname : IsKey name) (hd : d.header? [] name = some d') :
    lines? (fuel + 1) d ('[' :: (name.toList ++ ']' :: '\n' :: rest)) = lines? fuel d' rest := by
  have hkey : key? (name.toList ++ ']' :: '\n' :: rest) = some ([], name, ']' :: '\n' :: rest) :=
    key?_isKey hname rfl fun _ heq => absurd (List.cons.inj heq).1 (by decide)
  -- A name begins with no bracket, so that the header is not that of an element.
  obtain ⟨x, xs, hcons, hx⟩ := hname.exists_cons
  refine lines?_step rfl ?_
  rw [skipBlanks_cons (by decide) (by decide)]
  unfold statement?
  split
  · next heq =>
    rw [hcons] at heq
    exact absurd (List.cons.inj (List.cons.inj heq).2).1 (hx '[' rfl)
  · next heq =>
    obtain rfl := (List.cons.inj heq).2
    simp only [hkey, hd, Option.map_some]
  · next hnot => exact absurd rfl (hnot _)

/-- A key with its value is put into the table that is open. -/
theorem lines?_entry (hkey : IsKey key) (htext : Denotes text v)
    (hd : d.insert? [] key v = some d') :
    lines? (fuel + 1) d (key.toList ++ ' ' :: '=' :: ' ' :: (text ++ '\n' :: rest)) =
      lines? fuel d' rest := by
  have hread : key? (key.toList ++ ' ' :: '=' :: ' ' :: (text ++ '\n' :: rest)) =
      some ([], key, '=' :: ' ' :: (text ++ '\n' :: rest)) :=
    key?_isKey hkey rfl fun _ heq => absurd (List.cons.inj heq).1 (by decide)
  have hvalue : value? (fuel + 1) 0 (skipBlanks (' ' :: (text ++ '\n' :: rest))) =
      some (v, '\n' :: rest) := by
    have hblank : skipBlanks (' ' :: (text ++ '\n' :: rest)) = skipBlanks (text ++ '\n' :: rest) :=
      rfl
    rw [hblank, htext.head, htext.read]
  -- A key begins with nothing that makes the line an empty one or a header.
  obtain ⟨x, xs, hcons, hx⟩ := hkey.exists_cons
  refine lines?_step ?_ ?_
  · unfold lineEnd?
    rw [hkey.skipBlanks, hcons]
    split
    · next heq => exact absurd (List.cons.inj heq).1 (hx '#' rfl)
    · unfold lineBreak?
      split
      · next heq => cases heq
      · next heq => exact absurd (List.cons.inj heq).1 (hx '\n' rfl)
      · next heq => exact absurd (List.cons.inj heq).1 (hx '\r' rfl)
      · rfl
  · rw [hkey.skipBlanks]
    unfold statement?
    split
    · next heq =>
      rw [hcons] at heq
      exact absurd (List.cons.inj heq).1 (hx '[' rfl)
    · next heq =>
      rw [hcons] at heq
      exact absurd (List.cons.inj heq).1 (hx '[' rfl)
    · simp only [hread, hvalue, hd, Option.map_some]

end Tuner.Toml
