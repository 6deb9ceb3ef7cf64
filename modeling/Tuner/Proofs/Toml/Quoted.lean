import Tuner.Toml.Quoted

/-!
# Strings are read back

`Spells` says how a text stands between its quotes: piece by piece, where a piece is a character or
an escape, and with quotes that stand for themselves as long as no three come in a row. Each of the
four forms writes a text in that way (`spells_choose`), and whatever is spelled so is read as the
text (`read_spells`), whichever form it has.

What the reader needs besides is that the text cannot be taken for more quotes or for a line break
behind the opening ones. Both follow from what the first piece begins with.
-/

namespace Tuner.Toml.QuotedText

variable {q : QuotedText} {c x : Char} {cs text written rest seen tail : List Char} {run : Nat}

/-! ## Spelling -/

/-- Some characters that are read as one: `x`, which is no quote, and those behind it. -/
structure IsPiece (q : QuotedText) (c x : Char) (tail : List Char) : Prop where
  notQuote : x ≠ q.quote
  notReturn : x ≠ '\r'
  lineBreak : x = '\n' → c = '\n'
  read : ∀ seen rest, (q.inside? seen x).bind (fun r => q.readFrom r.1 r.2 (tail ++ rest)) =
    q.readFrom .inside (c :: seen) rest

/-- How a text is written behind some quotes in a row. -/
inductive Spells (q : QuotedText) : Nat → List Char → List Char → Prop where
  | nil (run : Nat) : Spells q run [] []
  | quote {run : Nat} {text written : List Char} (hmultiline : q.multiline = true) (hrun : run < 2)
      (h : Spells q (run + 1) text written) : Spells q run (q.quote :: text) (q.quote :: written)
  | piece {run : Nat} {text written tail : List Char} {c x : Char} (hpiece : q.IsPiece c x tail)
      (h : Spells q 0 text written) : Spells q run (c :: text) (x :: (tail ++ written))

/-! ## Reading what is spelled -/

/-- The place behind a run of quotes. -/
def placeBehind (run : Nat) : Place :=
  if run = 0 then .inside else .quotes run

/-- Behind fewer than three quotes a piece is read like one inside the string. -/
theorem readFrom_of_ne_quote (hrun : run ≤ 2) (hx : x ≠ q.quote) :
    q.readFrom (placeBehind run) seen (x :: rest) =
      (q.inside? (q.withQuotes run seen) x).bind fun r => q.readFrom r.1 r.2 rest := by
  by_cases hzero : run = 0
  · subst hzero
    rw [placeBehind, if_pos rfl, readFrom, if_neg hx, show q.withQuotes 0 seen = seen from rfl]
    cases q.inside? seen x <;> rfl
  · rw [placeBehind, if_neg hzero, readFrom, if_neg hx, if_neg (by omega)]
    cases q.inside? (q.withQuotes run seen) x <;> rfl

/-- A quote on several lines goes on with the run. -/
theorem readFrom_quote (hmultiline : q.multiline = true) (hrun : run < 4) :
    q.readFrom (placeBehind run) seen (q.quote :: rest) =
      q.readFrom (placeBehind (run + 1)) seen rest := by
  by_cases hzero : run = 0
  · subst hzero
    simp [placeBehind, readFrom, hmultiline]
  · simp [placeBehind, readFrom, hzero, hrun]

theorem withQuotes_succ (q : QuotedText) (run : Nat) (seen : List Char) :
    q.withQuotes (run + 1) seen = q.quote :: q.withQuotes run seen := rfl

/-- The closing quotes end a string, and quotes right before them belong to it. -/
theorem readFrom_delimiter (hrun : run ≤ if q.multiline then 2 else 0)
    (hrest : rest.head? ≠ some q.quote) :
    q.readFrom (placeBehind run) seen (q.delimiter ++ rest) =
      some ((q.withQuotes run seen).reverse, rest) := by
  cases hmultiline : q.multiline with
  | false =>
    obtain rfl : run = 0 := by simpa [hmultiline] using hrun
    simp [placeBehind, delimiter, readFrom, hmultiline, withQuotes]
  | true =>
    replace hrun : run ≤ 2 := by simpa [hmultiline] using hrun
    have hthree : q.delimiter ++ rest = q.quote :: q.quote :: q.quote :: rest := by
      simp [delimiter, hmultiline]
    rw [hthree, readFrom_quote hmultiline (by omega), readFrom_quote hmultiline (by omega)]
    by_cases htwo : run = 2
    · -- Five quotes in a row are as many as there can be.
      subst htwo
      simp [placeBehind, readFrom]
    · rw [readFrom_quote hmultiline (by omega)]
      cases rest with
      | nil => simp [placeBehind, readFrom]
      | cons c rest =>
        have hc : c ≠ q.quote := fun heq => hrest (by rw [heq]; rfl)
        simp [placeBehind, readFrom, hc]

/-- **What spells a text is read as it.** -/
theorem readFrom_spells (h : Spells q run text written) (hrun : run ≤ if q.multiline then 2 else 0)
    (hrest : rest.head? ≠ some q.quote) :
    q.readFrom (placeBehind run) seen (written ++ (q.delimiter ++ rest)) =
      some ((q.withQuotes run seen).reverse ++ text, rest) := by
  induction h generalizing seen with
  | nil run =>
    rw [List.append_nil]
    exact readFrom_delimiter hrun hrest
  | quote hmultiline hlt _ ih =>
    rw [if_pos hmultiline] at ih
    rw [List.cons_append, readFrom_quote hmultiline (by omega), ih (by omega), withQuotes_succ]
    simp
  | @piece run text written tail c x hpiece _ ih =>
    -- A piece ends the run of quotes, and these join the text that was seen.
    have htwo : run ≤ 2 := Nat.le_trans hrun (by split <;> omega)
    rw [List.cons_append, List.append_assoc, readFrom_of_ne_quote htwo hpiece.notQuote,
      hpiece.read]
    have hinside := @ih (c :: q.withQuotes run seen) (Nat.zero_le _)
    simpa [placeBehind, withQuotes] using hinside

/-! ## Pieces -/

theorem inside?_backslash (hescapes : q.escapes = true) :
    q.inside? seen '\\' = some (.backslash, seen) := by
  simp [inside?, hescapes]

/-- A plain character stands for itself, if it begins no escape. -/
theorem isPiece_plain (hne : c ≠ q.quote) (hplain : isPlain c = true)
    (hescape : q.escapes = true → c ≠ '\\') : q.IsPiece c c [] := by
  have hcontrol : ∀ x, isPlain x = false → c ≠ x := fun x hx heq => by simp [heq, hx] at hplain
  have hnewline : c ≠ '\n' := hcontrol _ rfl
  have hreturn : c ≠ '\r' := hcontrol _ rfl
  refine ⟨hne, hreturn, fun h => h, fun seen rest => ?_⟩
  have hinside : q.inside? seen c = some (.inside, c :: seen) := by
    simpa [inside?, hnewline, hreturn, hplain] using hescape
  rw [hinside]
  rfl

/-- A line break stands for itself on several lines. -/
theorem isPiece_lineBreak (hquote : q.quote ≠ '\n') (hmultiline : q.multiline = true) :
    q.IsPiece '\n' '\n' [] := by
  refine ⟨hquote.symm, by decide, fun h => h, fun seen rest => ?_⟩
  have hinside : q.inside? seen '\n' = some (.inside, '\n' :: seen) := by
    simp [inside?, hmultiline]
  rw [hinside]
  rfl

section Escapes

variable (hescapes : q.escapes = true) (hquote : q.quote = '"')

include hescapes hquote

/-- What is read behind a backslash. -/
theorem isPiece_backslash (h : ∀ seen rest,
    q.readFrom .backslash seen (tail ++ rest) = q.readFrom .inside (c :: seen) rest) :
    q.IsPiece c '\\' tail := by
  refine ⟨by rw [hquote]; decide, by decide, fun h => absurd h (by decide), fun seen rest => ?_⟩
  rw [inside?_backslash hescapes]
  exact h seen rest

/-- An escape of two characters, the second of which is none of those that go on. -/
theorem isPiece_escape (hx : x ∉ ['u', 'U', '\n', '\r', ' ', '\t']) (he : ofEscape? x = some c) :
    q.IsPiece c '\\' [x] := by
  refine isPiece_backslash hescapes hquote fun seen rest => ?_
  have hplace : q.backslash? seen x = some (.inside, c :: seen) := by
    simp only [List.mem_cons, List.not_mem_nil, or_false, not_or] at hx
    simp [backslash?, hx, he]
  simp only [List.singleton_append, readFrom, hplace]

/-- A control character is given by its number. -/
theorem isPiece_unit (hc : c.toNat < 0x80) :
    q.IsPiece c '\\'
      ['u', '0', '0', upperHexDigit (c.toNat / 16), upperHexDigit (c.toNat % 16)] := by
  refine isPiece_backslash hescapes hquote fun seen rest => ?_
  have hhigh := Text.hexValue?_toUpper_hexDigit (c.toNat / 16) (by omega)
  have hlow := Text.hexValue?_toUpper_hexDigit (c.toNat % 16) (by omega)
  have hzero : Text.hexValue? '0' = some 0 := rfl
  have hvalue : 16 * (c.toNat / 16) + c.toNat % 16 = c.toNat := Nat.div_add_mod _ _
  have hscalar : scalar? c.toNat = some c := by
    rw [scalar?, if_pos (show c.toNat.isValidChar from c.valid), Char.ofNat_toNat]
  simp [readFrom, backslash?, unit?, hzero, upperHexDigit, hhigh, hlow, hvalue, hscalar]

/-- However a character is escaped, it is a piece. -/
theorem isPiece_escaped (hc : c ≠ '"') :
    ∃ x tail, escaped q.multiline c = x :: tail ∧ q.IsPiece c x tail := by
  have hescape : ∀ x, x ∉ ['u', 'U', '\n', '\r', ' ', '\t'] → ofEscape? x = some c →
      q.IsPiece c '\\' [x] := fun x hx he => isPiece_escape hescapes hquote hx he
  unfold escaped
  -- the characters with an escape of their own, and the others by their number if they are not
  -- plain
  split
  · exact ⟨_, _, rfl, hescape 'b' (by decide) rfl⟩
  · exact ⟨_, _, rfl, hescape 't' (by decide) rfl⟩
  · cases hmultiline : q.multiline with
    | true => exact ⟨_, _, rfl, isPiece_lineBreak (by rw [hquote]; decide) hmultiline⟩
    | false => exact ⟨_, _, rfl, hescape 'n' (by decide) rfl⟩
  · exact ⟨_, _, rfl, hescape 'f' (by decide) rfl⟩
  · exact ⟨_, _, rfl, hescape 'r' (by decide) rfl⟩
  · exact ⟨_, _, rfl, hescape '\\' (by decide) rfl⟩
  · next hbackslash =>
    split
    · next hplain =>
      exact ⟨_, _, rfl, isPiece_plain (by rwa [hquote]) hplain fun _ => hbackslash⟩
    · next hcontrol =>
      refine ⟨_, _, rfl, isPiece_unit hescapes hquote ?_⟩
      simp [isPlain] at hcontrol
      omega

/-! ## The forms -/

/-- Between double quotes a text is written with escapes, and on several lines with some quotes that
stand for themselves. -/
theorem spells_escaped (run : Nat) (cs : List Char) :
    Spells q run cs (escapedFrom q.multiline run cs) := by
  induction cs generalizing run with
  | nil => exact .nil run
  | cons c cs ih =>
    by_cases hc : c = '"'
    · subst hc
      rw [escapedFrom]
      -- a quote stands for itself as long as there are not two before it
      split
      · next hraw =>
        simp only [Bool.and_eq_true, decide_eq_true_eq] at hraw
        have hnext := Spells.quote hraw.1 hraw.2 (ih (run + 1))
        rwa [hquote] at hnext
      · exact .piece (isPiece_escape hescapes hquote (by decide) rfl) (ih 0)
    · obtain ⟨x, tail, hwritten, hpiece⟩ := isPiece_escaped hescapes hquote hc
      rw [escapedFrom.eq_3 _ _ _ _ hc, hwritten]
      exact .piece hpiece (ih 0)

end Escapes

/-- The longest run is at least the one under way. -/
theorem le_longestRun (x : Char) (run : Nat) (cs : List Char) : run ≤ longestRun x run cs := by
  induction cs generalizing run with
  | nil => exact Nat.le_refl run
  | cons c cs ih =>
    rw [longestRun]
    split
    · exact Nat.le_trans (Nat.le_succ run) (ih (run + 1))
    · exact Nat.le_max_left _ _

/-- Between single quotes a text stands as it is. -/
theorem spells_raw (hpieces : ∀ c ∈ cs, c ≠ q.quote → q.IsPiece c c [])
    (hrun : longestRun q.quote run cs ≤ if q.multiline then 2 else 0) : Spells q run cs cs := by
  induction cs generalizing run with
  | nil => exact .nil run
  | cons c cs ih =>
    have hrest : ∀ c ∈ cs, c ≠ q.quote → q.IsPiece c c [] :=
      fun c hc => hpieces c (List.mem_cons_of_mem _ hc)
    rw [longestRun] at hrun
    by_cases hc : c = q.quote
    · subst hc
      rw [if_pos rfl] at hrun
      -- On one line the longest run is zero, and here it is not.
      have hle := le_longestRun q.quote (run + 1) cs
      have hmultiline : q.multiline = true := by
        cases hm : q.multiline with
        | true => rfl
        | false => simp [hm] at hrun; omega
      rw [if_pos hmultiline] at hrun
      exact .quote hmultiline (by omega) (ih hrest (by rwa [if_pos hmultiline]))
    · rw [if_neg hc] at hrun
      exact .piece (hpieces c List.mem_cons_self hc)
        (ih hrest (Nat.le_trans (Nat.le_max_right _ _) hrun))

/-! ## What is written is read back -/

theorem isPlain_of_not_needsEscape (h : needsEscape c = false) (hc : c ≠ '\n') :
    isPlain c = true := by
  by_cases htab : c = '\t'
  · rw [htab]
    rfl
  · simpa [needsEscape, htab, hc] using h

/-- A text stands between single quotes only if that can hold it. -/
theorem choose_cases (cs : List Char) :
    choose cs = basic ∨ choose cs = multilineBasic ∨
      (choose cs = literal ∧ (∀ c ∈ cs, needsEscape c = false) ∧
        longestRun apostrophe 0 cs = 0 ∧ '\n' ∉ cs) ∨
      choose cs = multilineLiteral ∧ (∀ c ∈ cs, needsEscape c = false) ∧
        longestRun apostrophe 0 cs ≤ 2 := by
  simp only [choose]
  split
  · exact .inl rfl
  · split
    · next h => exact .inr (.inr (.inl ⟨rfl, by simpa [and_assoc] using h⟩))
    · split
      · exact .inr (.inl rfl)
      · split
        · next h => exact .inr (.inr (.inr ⟨rfl, by simpa using h⟩))
        · split
          · exact .inr (.inl rfl)
          · exact .inl rfl

/-- Without escapes a character stands for itself if it needs none. -/
theorem isPiece_raw (hescapes : q.escapes = false) (hcontrol : needsEscape c = false)
    (hquote : c ≠ q.quote) (hnewline : c ≠ '\n') : q.IsPiece c c [] :=
  isPiece_plain hquote (isPlain_of_not_needsEscape hcontrol hnewline) fun h =>
    absurd h (by simp [hescapes])

/-- What a form writes between the quotes, but for a line break in front. -/
def body (q : QuotedText) (cs : List Char) : List Char :=
  if q.escapes then escapedFrom q.multiline 0 cs else cs

/-- The form that is chosen for a text can hold it. -/
theorem spells_choose (cs : List Char) : Spells (choose cs) 0 cs ((choose cs).body cs) := by
  obtain h | h | ⟨h, hcontrol, hsingles, hnewline⟩ | ⟨h, hcontrol, hsingles⟩ := choose_cases cs
  · rw [h]
    exact spells_escaped rfl rfl 0 cs
  · rw [h]
    exact spells_escaped rfl rfl 0 cs
  · rw [h]
    exact spells_raw (fun c hc hquote => isPiece_raw rfl (hcontrol c hc) hquote
      fun heq => hnewline (heq ▸ hc)) (Nat.le_of_eq hsingles)
  · rw [h]
    refine spells_raw (fun c hc hquote => ?_) hsingles
    by_cases hnewline : c = '\n'
    · subst hnewline
      exact isPiece_lineBreak (by decide) rfl
    · exact isPiece_raw rfl (hcontrol c hc) hquote hnewline

/-- A text that has no line break begins with none, however it is spelled. -/
theorem dropBreak_spells (h : Spells q 0 text written) (hquote : q.quote ≠ '\n' ∧ q.quote ≠ '\r')
    (hnewline : '\n' ∉ text) (rest : List Char) :
    dropBreak (written ++ q.quote :: rest) = written ++ q.quote :: rest := by
  -- only what begins with a line break loses anything
  have hkeep : ∀ x cs, x ≠ '\n' → x ≠ '\r' → dropBreak (x :: cs) = x :: cs := by
    intro x cs hx hx'
    unfold dropBreak
    split <;> simp_all
  cases h with
  | nil => exact hkeep _ _ hquote.1 hquote.2
  | quote => exact hkeep _ _ hquote.1 hquote.2
  | piece hpiece =>
    exact hkeep _ _ (fun heq => hnewline (hpiece.lineBreak heq ▸ List.mem_cons_self))
      hpiece.notReturn

theorem open?_single (hq : q = basic ∨ q = literal) (h : ∀ tail, cs ≠ q.quote :: q.quote :: tail) :
    open? (q.quote :: cs) = some (q, cs) := by
  rcases hq with rfl | rfl
  · simp only [basic] at h ⊢
    unfold open?
    split <;> simp_all [basic]
  · simp only [literal, apostrophe] at h ⊢
    unfold open?
    split <;> simp_all [literal, apostrophe]

/-- The quotes around a text on one line are not taken for tripled ones. -/
theorem not_tripled (h : Spells q 0 text written) (hmultiline : q.multiline = false)
    (hrest : rest.head? ≠ some q.quote) (tail : List Char) :
    written ++ q.quote :: rest ≠ q.quote :: q.quote :: tail := by
  intro heq
  cases h with
  | nil =>
    obtain rfl : rest = q.quote :: tail := by simpa using heq
    exact hrest rfl
  | quote htripled => simp [hmultiline] at htripled
  | piece hpiece => exact hpiece.notQuote (List.cons.inj heq).1

section Forms

variable (h : Spells q 0 cs (q.body cs)) (hrest : rest.head? ≠ some q.quote)

include h hrest

/-- What is behind the opening quotes is read, but for a line break right there. -/
theorem read_of_readFrom (htail : (if q.multiline then dropBreak tail else tail) =
    q.body cs ++ (q.delimiter ++ rest)) : q.read tail = some (String.ofList cs, rest) := by
  rw [read, htail]
  exact congrArg _ (readFrom_spells h (Nat.zero_le _) hrest)

/-- What is written on one line is read back. -/
theorem read_writeAs_single (hq : q = basic ∨ q = literal) :
    ∃ tail, open? (q.writeAs cs ++ rest) = some (q, tail) ∧
      q.read tail = some (String.ofList cs, rest) := by
  have hmultiline : q.multiline = false := by rcases hq with rfl | rfl <;> rfl
  have hdelimiter : q.delimiter = [q.quote] := by rw [delimiter, hmultiline]; rfl
  refine ⟨q.body cs ++ q.quote :: rest, ?_, read_of_readFrom h hrest ?_⟩
  · have hopen := open?_single hq (not_tripled h hmultiline hrest)
    simpa [writeAs, body, hmultiline, hdelimiter] using hopen
  · rw [hmultiline, hdelimiter]
    rfl

/-- What is written on several lines is read back. The line break that is dropped is one that was
written in front of the text, if the text has any. -/
theorem read_writeAs_multiline (hq : q = multilineBasic ∨ q = multilineLiteral) :
    ∃ tail, open? (q.writeAs cs ++ rest) = some (q, tail) ∧
      q.read tail = some (String.ofList cs, rest) := by
  have hmultiline : q.multiline = true := by rcases hq with rfl | rfl <;> rfl
  have hopen : ∀ tail, open? (q.delimiter ++ tail) = some (q, tail) := by
    rcases hq with rfl | rfl <;> exact fun _ => rfl
  have hquote : q.quote ≠ '\n' ∧ q.quote ≠ '\r' := by rcases hq with rfl | rfl <;> decide
  have hdelimiter : q.delimiter ++ rest = q.quote :: q.quote :: q.quote :: rest := by
    rw [delimiter, hmultiline]
    rfl
  by_cases hnewline : '\n' ∈ cs
  · refine ⟨'\n' :: (q.body cs ++ (q.delimiter ++ rest)), ?_, read_of_readFrom h hrest ?_⟩
    · have hwritten : q.writeAs cs ++ rest =
          q.delimiter ++ ('\n' :: (q.body cs ++ (q.delimiter ++ rest))) := by
        simp [writeAs, body, hmultiline, hnewline]
      rw [hwritten, hopen]
    · rw [hmultiline]
      rfl
  · refine ⟨q.body cs ++ (q.delimiter ++ rest), ?_, read_of_readFrom h hrest ?_⟩
    · have hwritten : q.writeAs cs ++ rest =
          q.delimiter ++ (q.body cs ++ (q.delimiter ++ rest)) := by
        simp [writeAs, body, hmultiline, hnewline]
      rw [hwritten, hopen]
    · rw [hmultiline, if_pos rfl, hdelimiter, dropBreak_spells h hquote hnewline]

end Forms

/-- **A written string is read back**, and what follows it is left. -/
theorem read_write (s : String) (hrest : rest.head? ≠ some '"' ∧ rest.head? ≠ some apostrophe) :
    ∃ q tail, open? (write s ++ rest) = some (q, tail) ∧ q.read tail = some (s, rest) := by
  have hspells := spells_choose s.toList
  have hread : ∃ tail, open? (write s ++ rest) = some (choose s.toList, tail) ∧
      (choose s.toList).read tail = some (String.ofList s.toList, rest) := by
    obtain h | h | ⟨h, -⟩ | ⟨h, -⟩ := choose_cases s.toList
    · exact read_writeAs_single hspells (by rw [h]; exact hrest.1) (.inl h)
    · exact read_writeAs_multiline hspells (by rw [h]; exact hrest.1) (.inl h)
    · exact read_writeAs_single hspells (by rw [h]; exact hrest.2) (.inr h)
    · exact read_writeAs_multiline hspells (by rw [h]; exact hrest.2) (.inr h)
  rw [String.ofList_toList] at hread
  exact ⟨_, hread⟩

end Tuner.Toml.QuotedText
