import Mathlib.Data.List.Chain
import Tuner.Json.Printer
import Tuner.Proofs.Json.Numeral

/-!
# Scanning what was printed

The scan of a text finds the tokens that were printed, provided that every number among them reads
back and that no two bare words touch: nothing but a mark or a quote ends a word, so two words in a
row would run together.

* **`scan_tokens`** — printed tokens are found again, by induction on the tokens. What carries the
  induction is `Scan.finish?`: a scan that could end here continues with any mark or quote
  (`step?_of_finish?`), whether it stands between tokens or at the end of a word.
* **`scan?_chars`** — the text of a value is scanned to the tokens of the value, since commas,
  colons and brackets keep its words apart (`isChain_tokens`).
* **`inRange_of_scan?`** — of any text at all, the scan finds only numbers that are in range.
-/

namespace Tuner.Json

namespace Token

/-- Whether a token is written as a bare word. -/
def isWord : Token → Bool
  | .null => true
  | .bool _ => true
  | .number _ => true
  | _ => false

/-- A token whose text is found again, as far as it is a number. -/
def Legible : Token → Prop
  | .number n => n.ReadsBack
  | _ => True

/-- Two tokens that may follow one another without a blank. -/
def Apart (a b : Token) : Prop :=
  a.isWord → b.isWord = false

/-! ## Words -/

/-- A legible word is written in characters of words and reads as itself. For a number both follow
from its text being read back; the names are checked first, and no number is written like one. -/
theorem ofBare?_chars {t : Token} (hword : t.isWord) (hlegible : t.Legible) :
    ofBare? t.chars = some t ∧ ∀ c ∈ t.chars, isBare c := by
  cases t with
  | null => exact ⟨rfl, List.all_eq_true.mp rfl⟩
  | bool b => cases b <;> exact ⟨rfl, List.all_eq_true.mp rfl⟩
  | number n =>
    have hread : Number.ofChars? n.chars = some n := hlegible
    refine ⟨?_, Number.isBare_of_ofChars? hread⟩
    have hname : ∀ name : List Char, Number.ofChars? name = none → n.chars ≠ name := by
      rintro name hnone heq
      rw [← heq, hread] at hnone
      exact absurd hnone (by simp)
    rw [chars, ofBare?, if_neg (hname _ rfl), if_neg (hname _ rfl), if_neg (hname _ rfl), hread]
    rfl
  | _ => simp [isWord] at hword

theorem ofBare?_nil : ofBare? [] = none := by decide

theorem scan_bare {cs : List Char} (h : ∀ c ∈ cs, isBare c) (found : List Token)
    (seen : List Char) :
    cs.foldlM Scan.step? ⟨found, .bare seen⟩ = some ⟨found, .bare (cs.reverse ++ seen)⟩ := by
  induction cs generalizing seen with
  | nil => rfl
  | cons c cs ih =>
    obtain ⟨hc, hcs⟩ := List.forall_mem_cons.mp h
    have hstep : Scan.step? ⟨found, .bare seen⟩ c = some ⟨found, .bare (c :: seen)⟩ := by
      simp [Scan.step?, hc]
    rw [List.foldlM_cons, hstep, Option.bind_eq_bind, Option.bind_some, ih hcs]
    simp

theorem begin?_of_isBare {c : Char} (hc : isBare c) (found : List Token) :
    Scan.begin? found c = some ⟨found, .bare [c]⟩ := by
  have hblank : ¬ (c = ' ' ∨ c = '\t' ∨ c = '\n' ∨ c = '\r') := by
    rintro (rfl | rfl | rfl | rfl) <;> exact absurd hc (by decide)
  have hquote : c ≠ '"' := by
    rintro rfl
    exact absurd hc (by decide)
  rw [Scan.begin?, if_neg hblank, if_neg hquote, if_pos hc]

/-- A word is gathered from its first character on. -/
theorem scan_word {cs : List Char} (hne : cs ≠ []) (h : ∀ c ∈ cs, isBare c) (found : List Token) :
    cs.foldlM Scan.step? ⟨found, .between⟩ = some ⟨found, .bare cs.reverse⟩ := by
  obtain ⟨c, cs, rfl⟩ := List.exists_cons_of_ne_nil hne
  obtain ⟨hc, hcs⟩ := List.forall_mem_cons.mp h
  have hstep : Scan.step? ⟨found, .between⟩ c = some ⟨found, .bare [c]⟩ :=
    begin?_of_isBare hc found
  rw [List.foldlM_cons, hstep, Option.bind_eq_bind, Option.bind_some, scan_bare hcs]
  simp

/-! ## Strings -/

/-- A control character is found by its four digits. -/
theorem scan_unit {c : Char} (h : c.toNat < 0x20) (found : List Token) (seen : List Char) :
    ['\\', 'u', '0', '0', Text.hexDigit (c.toNat / 16), Text.hexDigit (c.toNat % 16)].foldlM
        Scan.step? ⟨found, .quoted seen none⟩ =
      some ⟨found, .quoted (c :: seen) none⟩ := by
  have hhigh := Text.hexValue?_hexDigit (c.toNat / 16) (by omega)
  have hlow := Text.hexValue?_hexDigit (c.toNat % 16) (by omega)
  have hzero : Text.hexValue? '0' = some 0 := rfl
  have hvalue : 16 * (c.toNat / 16) + c.toNat % 16 = c.toNat := Nat.div_add_mod c.toNat 16
  -- a control character is no half of a surrogate pair
  have hunit : afterUnit? seen none c.toNat = some (.quoted (c :: seen) none) := by
    simp [afterUnit?, show ¬ 0xD800 ≤ c.toNat by omega, show ¬ 0xDC00 ≤ c.toNat by omega]
  simp [Scan.step?, hzero, hhigh, hlow, hvalue, hunit]

/-- One character of a string is found again, however it is written. -/
theorem scan_escaped (c : Char) (found : List Token) (seen : List Char) :
    (escaped c).foldlM Scan.step? ⟨found, .quoted seen none⟩ =
      some ⟨found, .quoted (c :: seen) none⟩ := by
  unfold escaped
  split
  case h_8 hquote hbackslash _ _ _ _ _ =>
    split
    · next hcontrol => exact scan_unit hcontrol found seen
    · next hcontrol =>
      have hquote : ¬ c = '"' := hquote
      have hbackslash : ¬ c = '\\' := hbackslash
      simp [Scan.step?, hquote, hbackslash, hcontrol]
  -- the short escapes
  all_goals rfl

/-- All characters of a string are found again, each behind those before it. -/
theorem scan_flatMap_escaped (cs : List Char) (found : List Token) (seen : List Char) :
    (cs.flatMap escaped).foldlM Scan.step? ⟨found, .quoted seen none⟩ =
      some ⟨found, .quoted (cs.reverse ++ seen) none⟩ := by
  induction cs generalizing seen with
  | nil => rfl
  | cons c cs ih =>
    rw [List.flatMap_cons, List.foldlM_append, scan_escaped, Option.bind_eq_bind,
      Option.bind_some, ih]
    simp

/-! ## Tokens in a row -/

/-- **What ends a word.** A scan that could end here goes on with a character that is not part of
words as if it stood between tokens. -/
theorem step?_of_finish? {s : Scan} {ts : List Token} (h : s.finish? = some ts) {c : Char}
    (hc : isBare c = false) : s.step? c = Scan.begin? ts.reverse c := by
  obtain ⟨found, place⟩ := s
  cases place with
  | between =>
    obtain rfl : found.reverse = ts := Option.some.inj h
    simp [Scan.step?]
  | bare seen =>
    obtain ⟨t, ht, rfl⟩ := Option.map_eq_some_iff.mp h
    simp [Scan.step?, hc, ht]
  | quoted _ _ => exact absurd h (by simp [Scan.finish?])
  | backslash _ _ => exact absurd h (by simp [Scan.finish?])
  | unit _ _ _ _ => exact absurd h (by simp [Scan.finish?])

/-- A word that is read back can be the end of a text. -/
theorem scan_chars_of_isWord {t : Token} (hword : t.isWord) (hlegible : t.Legible)
    (found : List Token) :
    ∃ s, t.chars.foldlM Scan.step? ⟨found, .between⟩ = some s ∧
      s.finish? = some (found.reverse ++ [t]) := by
  obtain ⟨hread, hbare⟩ := ofBare?_chars hword hlegible
  have hne : t.chars ≠ [] := by
    intro heq
    rw [heq, ofBare?_nil] at hread
    exact absurd hread (by simp)
  refine ⟨_, scan_word hne hbare found, ?_⟩
  simp [Scan.finish?, hread]

/-- A printed mark or string is found wherever a scan could end, and leaves no word under way. -/
theorem scan_chars_of_not_isWord {t : Token} (hword : t.isWord = false) {s : Scan}
    {ts : List Token} (h : s.finish? = some ts) :
    t.chars.foldlM Scan.step? s = some ⟨t :: ts.reverse, .between⟩ := by
  cases t with
  | null => simp [isWord] at hword
  | bool b => simp [isWord] at hword
  | number n => simp [isWord] at hword
  | string k =>
    have hopen : s.step? '"' = some ⟨ts.reverse, .quoted [] none⟩ := by
      rw [step?_of_finish? h (by decide)]
      rfl
    rw [chars, List.append_assoc, List.singleton_append, List.foldlM_cons, hopen,
      Option.bind_eq_bind, Option.bind_some, List.foldlM_append, scan_flatMap_escaped]
    simp [Scan.step?]
  | _ =>
    rw [chars, List.foldlM_cons, step?_of_finish? h (by decide)]
    rfl

/-- **Printed tokens are found again.** The scan may start at the end of another word, unless the
first token is a word itself. -/
theorem scan_tokens {ts : List Token} (happart : ts.IsChain Apart)
    (hlegible : ∀ t ∈ ts, t.Legible) {s : Scan} {before : List Token}
    (h : s.finish? = some before)
    (hstart : ∀ t ∈ ts.head?, t.isWord → s.place = .between) :
    ∃ s', (ts.flatMap chars).foldlM Scan.step? s = some s' ∧
      s'.finish? = some (before ++ ts) := by
  induction ts generalizing s before with
  | nil => exact ⟨s, rfl, by simpa using h⟩
  | cons t ts ih =>
    obtain ⟨hnext, happart⟩ := List.isChain_cons.mp happart
    obtain ⟨ht, hlegible⟩ := List.forall_mem_cons.mp hlegible
    -- the first token: where the scan stands behind it depends on whether it is a word
    have hfirst : ∃ s₁, t.chars.foldlM Scan.step? s = some s₁ ∧
        s₁.finish? = some (before ++ [t]) ∧ (t.isWord = false → s₁.place = .between) := by
      cases hword : t.isWord with
      | true =>
        obtain ⟨found, place⟩ := s
        obtain rfl : place = .between := hstart t rfl hword
        obtain rfl : found.reverse = before := Option.some.inj h
        obtain ⟨s₁, hs₁, hfinish⟩ := scan_chars_of_isWord hword ht found
        exact ⟨s₁, hs₁, hfinish, by simp⟩
      | false =>
        refine ⟨_, scan_chars_of_not_isWord hword h, ?_, fun _ => rfl⟩
        simp [Scan.finish?]
    obtain ⟨s₁, hs₁, hfinish, hplace⟩ := hfirst
    have hrest : ∀ u ∈ ts.head?, u.isWord → s₁.place = .between := by
      intro u hu huword
      apply hplace
      by_contra htword
      have := hnext u hu (by simpa using htword)
      simp [huword] at this
    obtain ⟨s', hs', hfinish'⟩ := ih happart hlegible hfinish hrest
    refine ⟨s', ?_, by simpa using hfinish'⟩
    rw [List.flatMap_cons, List.foldlM_append, hs₁, Option.bind_eq_bind, Option.bind_some, hs']

/-! ## Scanning finds numbers in range -/

/-- To begin a token brings no number, since a number is known at its end only. -/
theorem mem_begin? {found : List Token} {c : Char} {s : Scan} (h : Scan.begin? found c = some s)
    {n : Number} (hn : .number n ∈ s.tokens) : .number n ∈ found := by
  unfold Scan.begin? at h
  split at h
  · obtain rfl := Option.some.inj h
    exact hn
  · split at h
    · obtain rfl := Option.some.inj h
      exact hn
    · split at h
      · obtain rfl := Option.some.inj h
        exact hn
      · obtain ⟨t, ht, rfl⟩ := Option.map_eq_some_iff.mp h
        have hmark : .number n ≠ t := by
          rintro rfl
          unfold ofMark? at ht
          split at ht <;> simp at ht
        exact (List.mem_cons.mp hn).resolve_left hmark

/-- A word that is a number is one in range. -/
theorem inRange_of_ofBare? {cs : List Char} {n : Number} (h : ofBare? cs = some (.number n)) :
    n.InRange := by
  unfold ofBare? at h
  split at h
  · simp at h
  · split at h
    · simp at h
    · split at h
      · simp at h
      · obtain ⟨m, hm, heq⟩ := Option.map_eq_some_iff.mp h
        obtain rfl : m = n := by simpa using heq
        exact Number.inRange_of_ofChars? hm

/-- Each character keeps the numbers in range: the only place where one is added is the end of a
word. -/
theorem inRange_of_step? {s s' : Scan} {c : Char} (h : s.step? c = some s')
    (hs : ∀ n, .number n ∈ s.tokens → n.InRange) : ∀ n, .number n ∈ s'.tokens → n.InRange := by
  obtain ⟨found, place⟩ := s
  intro n hn
  cases place with
  | between => exact hs n (mem_begin? h hn)
  | bare seen =>
    simp only [Scan.step?] at h
    split at h
    · obtain rfl := Option.some.inj h
      exact hs n hn
    · obtain ⟨t, ht, h⟩ := Option.bind_eq_some_iff.mp h
      rcases List.mem_cons.mp (mem_begin? h hn) with rfl | hfound
      · exact inRange_of_ofBare? ht
      · exact hs n hfound
  | quoted seen high =>
    simp only [Scan.step?] at h
    split at h
    · obtain rfl := Option.some.inj h
      exact hs n hn
    · split at h
      · simp at h
      · split at h
        · obtain rfl := Option.some.inj h
          exact hs n ((List.mem_cons.mp hn).resolve_left (by simp))
        · split at h
          · simp at h
          · obtain rfl := Option.some.inj h
            exact hs n hn
  | backslash seen high =>
    simp only [Scan.step?] at h
    split at h
    · obtain rfl := Option.some.inj h
      exact hs n hn
    · split at h
      · simp at h
      · obtain ⟨e, -, rfl⟩ := Option.map_eq_some_iff.mp h
        exact hs n hn
  | unit seen high value digits =>
    obtain ⟨d, -, h⟩ := Option.bind_eq_some_iff.mp h
    split at h
    · obtain rfl := Option.some.inj h
      exact hs n hn
    · obtain ⟨p, -, rfl⟩ := Option.map_eq_some_iff.mp h
      exact hs n hn

/-- Any text keeps the numbers in range. Induction on the text, from any scan under way. -/
theorem inRange_of_foldlM {cs : List Char} {s s' : Scan} (h : cs.foldlM Scan.step? s = some s')
    (hs : ∀ n, .number n ∈ s.tokens → n.InRange) : ∀ n, .number n ∈ s'.tokens → n.InRange := by
  induction cs generalizing s with
  | nil =>
    obtain rfl := Option.some.inj h
    exact hs
  | cons c cs ih =>
    rw [List.foldlM_cons] at h
    obtain ⟨s₁, hs₁, h⟩ := Option.bind_eq_some_iff.mp h
    exact ih h (inRange_of_step? hs₁ hs)

/-- A text that ends in a word may have one more number. -/
theorem inRange_of_finish? {s : Scan} {ts : List Token} (h : s.finish? = some ts)
    (hs : ∀ n, .number n ∈ s.tokens → n.InRange) : ∀ n, .number n ∈ ts → n.InRange := by
  obtain ⟨found, place⟩ := s
  intro n hn
  cases place with
  | between =>
    obtain rfl := Option.some.inj h
    exact hs n (List.mem_reverse.mp hn)
  | bare seen =>
    obtain ⟨t, ht, rfl⟩ := Option.map_eq_some_iff.mp h
    rcases List.mem_cons.mp (List.mem_reverse.mp hn) with rfl | hn
    · exact inRange_of_ofBare? ht
    · exact hs n hn
  | quoted _ _ => simp [Scan.finish?] at h
  | backslash _ _ => simp [Scan.finish?] at h
  | unit _ _ _ _ => simp [Scan.finish?] at h

/-- **Scanning finds numbers in range**, whatever the text. -/
theorem inRange_of_scan? {cs : List Char} {ts : List Token} (h : scan? cs = some ts) :
    ∀ n, .number n ∈ ts → n.InRange := by
  obtain ⟨s, hs, hfinish⟩ := Option.bind_eq_some_iff.mp h
  exact inRange_of_finish? hfinish (inRange_of_foldlM hs (by simp))

end Token

/-! ## The tokens of a value

The words of a value are kept apart by the marks around them, so its text is scanned to its
tokens. -/

open Token (Apart)

/-- A mark may stand in front of anything. -/
theorem isChain_cons_of_not_isWord {m : Token} (hm : m.isWord = false) {ts : List Token}
    (h : ts.IsChain Apart) : (m :: ts).IsChain Apart := by
  refine List.isChain_cons.mpr ⟨fun _ _ hword => ?_, h⟩
  simp [hm] at hword

/-- A mark between two rows of tokens keeps them apart. -/
theorem isChain_append_of_not_isWord {m : Token} (hm : m.isWord = false) {ts rest : List Token}
    (hts : ts.IsChain Apart) (hrest : rest.IsChain Apart) :
    (ts ++ m :: rest).IsChain Apart := by
  refine List.isChain_append.mpr ⟨hts, isChain_cons_of_not_isWord hm hrest, ?_⟩
  intro _ _ b hb _
  obtain rfl : m = b := by simpa using hb
  exact hm

theorem isChain_itemTokens {items : List Json} (h : ∀ v ∈ items, v.tokens.IsChain Apart) :
    (itemTokens items).IsChain Apart := by
  induction items with
  | nil => exact .nil
  | cons v rest ih =>
    obtain ⟨hv, hrest⟩ := List.forall_mem_cons.mp h
    cases rest with
    | nil => exact hv
    | cons w rest => exact isChain_append_of_not_isWord rfl hv (ih hrest)

/-- Members are kept apart by commas, and each key from its value by a colon. -/
theorem isChain_memberTokens {members : List (String × Json)}
    (h : ∀ m ∈ members, m.2.tokens.IsChain Apart) : (memberTokens members).IsChain Apart := by
  induction members with
  | nil => exact .nil
  | cons m rest ih =>
    obtain ⟨k, v⟩ := m
    obtain ⟨hv, hrest⟩ := List.forall_mem_cons.mp h
    cases rest with
    | nil => exact isChain_cons_of_not_isWord rfl (isChain_cons_of_not_isWord rfl hv)
    | cons m rest =>
      -- a key and a colon are no words
      refine isChain_cons_of_not_isWord rfl (isChain_cons_of_not_isWord rfl ?_)
      exact isChain_append_of_not_isWord rfl hv (ih hrest)

/-- **No two words of a value touch.** -/
theorem isChain_tokens (v : Json) : v.tokens.IsChain Apart := by
  induction v using Json.induction with
  | null => exact .singleton _
  | bool b => exact .singleton _
  | number n => exact .singleton _
  | string s => exact .singleton _
  | array items ih =>
    exact isChain_cons_of_not_isWord rfl
      (isChain_append_of_not_isWord rfl (isChain_itemTokens ih) .nil)
  | object members ih =>
    exact isChain_cons_of_not_isWord rfl
      (isChain_append_of_not_isWord rfl (isChain_memberTokens ih) .nil)

theorem mem_numbers_of_mem_itemTokens {items : List Json} {n : Number}
    (h : ∀ v ∈ items, .number n ∈ v.tokens → n ∈ v.numbers) (hn : .number n ∈ itemTokens items) :
    n ∈ itemNumbers items := by
  induction items with
  | nil => simp [itemTokens] at hn
  | cons v rest ih =>
    obtain ⟨hv, hrest⟩ := List.forall_mem_cons.mp h
    rw [itemNumbers, List.mem_append]
    cases rest with
    | nil => exact Or.inl (hv hn)
    | cons w rest =>
      have hn : .number n ∈ v.tokens ∨ .number n ∈ itemTokens (w :: rest) := by
        simpa [itemTokens_cons_cons] using hn
      exact hn.imp hv (ih hrest)

theorem mem_numbers_of_mem_memberTokens {members : List (String × Json)} {n : Number}
    (h : ∀ m ∈ members, .number n ∈ m.2.tokens → n ∈ m.2.numbers)
    (hn : .number n ∈ memberTokens members) : n ∈ memberNumbers members := by
  induction members with
  | nil => simp [memberTokens] at hn
  | cons m rest ih =>
    obtain ⟨k, v⟩ := m
    obtain ⟨hv, hrest⟩ := List.forall_mem_cons.mp h
    rw [memberNumbers, List.mem_append]
    cases rest with
    | nil => exact Or.inl (hv (by simpa [memberTokens] using hn))
    | cons m rest =>
      have hn : .number n ∈ v.tokens ∨ .number n ∈ memberTokens (m :: rest) := by
        simpa [memberTokens_cons_cons] using hn
      exact hn.imp hv (ih hrest)

/-- The numbers among the tokens of a value are the numbers of the value. -/
theorem mem_numbers_of_mem_tokens {v : Json} {n : Number} (h : .number n ∈ v.tokens) :
    n ∈ v.numbers := by
  induction v using Json.induction with
  | null => simp [tokens] at h
  | bool b => simp [tokens] at h
  | number m => simpa [tokens, numbers] using h
  | string s => simp [tokens] at h
  | array items ih =>
    exact mem_numbers_of_mem_itemTokens ih (by simpa [tokens] using h)
  | object members ih =>
    exact mem_numbers_of_mem_memberTokens ih (by simpa [tokens] using h)

/-- **The text of a value is scanned to its tokens**, if its numbers read back. -/
theorem scan?_chars {v : Json} (h : ∀ n ∈ v.numbers, n.ReadsBack) :
    Token.scan? v.chars = some v.tokens := by
  have hlegible : ∀ t ∈ v.tokens, t.Legible := by
    intro t ht
    cases t with
    | number n => exact h n (mem_numbers_of_mem_tokens ht)
    | _ => trivial
  obtain ⟨s, hs, hfinish⟩ : ∃ s, v.chars.foldlM Token.Scan.step? ⟨[], .between⟩ = some s ∧
      s.finish? = some ([] ++ v.tokens) :=
    Token.scan_tokens (isChain_tokens v) hlegible rfl (fun _ _ _ => rfl)
  rw [Token.scan?, hs]
  exact hfinish

end Tuner.Json
