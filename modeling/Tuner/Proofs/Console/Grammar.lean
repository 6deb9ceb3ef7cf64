import Mathlib.Data.List.Basic
import Mathlib.Data.List.TakeWhile
import Tuner.Console.Grammar
import Tuner.Proofs.Decimal.Numeral

/-!
# What the reader of lines accepts

The reader cuts a line at its first blank, and what follows at its first blank again or at its
commas, always without the blanks around a part. That this finds the parts of a line again is a fact
about `split` and blanks (`split_spaced`), and `ofWord_rest` goes through the orders with it: what
follows the word of a well-formed order is read as that order.

The other way round the parts that are found are trimmed, whatever the line is, so that no order
comes out that could not be typed (`wellFormed_of_parse`). `parse_exact` is both.
-/

namespace Tuner.Console.Order

open Text

/-- What follows the word of a line: nothing, or the arguments. -/
inductive Rest : List String → List Char → Prop where
  | none : Rest [] []
  | some {args : List String} {rest : List Char} (h : Spaced args rest) : Rest args rest

variable {o : Order} {word what text id name part line : String} {args parts ids : List String}
variable {cs rest gap body : List Char} {percent : Float} {request : CreationRequest}

/-! ## Parts of a line -/

theorem IsArgument.toList_ne_nil (h : IsArgument text) : text.toList ≠ [] :=
  fun hnil => h.nonempty (String.toList_eq_nil_iff.mp hnil)

theorem IsWord.isArgument (h : IsWord text) : IsArgument text :=
  ⟨h.nonempty, fun c hc => h.solid c (List.mem_of_mem_head? hc),
    fun c hc => h.solid c (List.mem_of_getLast? hc)⟩

/-- What is typed as an argument is read as one. -/
theorem isArgument_ofList (hne : cs ≠ []) (h : Trimmed cs) : IsArgument (String.ofList cs) := by
  refine ⟨fun hempty => hne ?_, ?_⟩
  · exact String.ofList_eq_empty_iff.mp hempty
  · rwa [String.toList_ofList]

/-- A body of parts begins with its first part and ends with its last one, so there are no blanks
around it. -/
theorem Spaced.ne_nil_and_trimmed (h : Spaced parts body) (hparts : ∀ p ∈ parts, IsArgument p) :
    body ≠ [] ∧ Trimmed body := by
  induction h with
  | single part =>
    have hpart := hparts part (List.mem_singleton_self part)
    exact ⟨hpart.toList_ne_nil, hpart.trimmed⟩
  | @cons part parts gap rest hne hgap _ ih =>
    have hpart := hparts part List.mem_cons_self
    obtain ⟨hrest, htrimmed⟩ := ih fun p hp => hparts p (List.mem_cons_of_mem _ hp)
    -- the first part is the beginning of the body, and the end of the rest is its end
    refine ⟨by simp [hpart.toList_ne_nil], ?_⟩
    exact hpart.trimmed.append hpart.toList_ne_nil htrimmed hrest gap

/-- Without a blank all of a text is its first word. -/
theorem split_word (h : ∀ c ∈ cs, isBlank c = false) : split cs = (cs, []) := by
  have hall : ∀ c ∈ cs, (!isBlank c) = true := fun c hc => by rw [h c hc]; rfl
  rw [split, splitBlank, List.takeWhile_eq_self_iff.mpr hall, List.dropWhile_eq_nil_iff.mpr hall]
  rfl

/-- The first word ends where the blanks begin, however many there are, and what is behind them is
found without them. -/
theorem split_gap (hword : ∀ c ∈ cs, isBlank c = false) (hne : gap ≠ [])
    (hgap : ∀ c ∈ gap, isBlank c = true) (hrest : Trimmed rest) :
    split (cs ++ (gap ++ rest)) = (cs, rest) := by
  have hall : ∀ c ∈ cs, (!isBlank c) = true := fun c hc => by rw [hword c hc]; rfl
  obtain ⟨b, gap, rfl⟩ := List.exists_cons_of_ne_nil hne
  have hb : (!isBlank b) = false := by rw [hgap b List.mem_cons_self]; rfl
  have htrim : trimBoth (gap ++ rest) = rest := by
    have hcut := trimBoth_blanks (fun c hc => hgap c (List.mem_cons_of_mem _ hc)) hrest
      (fun c (hc : c ∈ []) => absurd hc List.not_mem_nil)
    rwa [List.append_nil] at hcut
  -- The cut is at `b`, and what is behind it loses the rest of the gap.
  rw [split, splitBlank, List.takeWhile_append_of_pos hall, List.dropWhile_append_of_pos hall]
  simp [hb, htrim]

/-- A body is cut behind its first part. -/
theorem split_spaced (h : Spaced (part :: args) body)
    (hpart : ∀ c ∈ part.toList, isBlank c = false) (hargs : ∀ a ∈ args, IsArgument a) :
    ∃ rest, split body = (part.toList, rest) ∧ Rest args rest := by
  cases h with
  | single => exact ⟨[], split_word hpart, .none⟩
  | cons hne hgap hrest =>
    exact ⟨_, split_gap hpart hne hgap (hrest.ne_nil_and_trimmed hargs).2, .some hrest⟩

/-- A body begins with its word and ends with a part. If the word is left out, it is empty. -/
theorem Spaced.trimmed (h : Spaced (word :: args) body)
    (hword : IsWord word ∨ word = "" ∧ args = []) (hargs : ∀ a ∈ args, IsArgument a) :
    Trimmed body := by
  rcases hword with hword | ⟨rfl, rfl⟩
  · have hparts := List.forall_mem_cons.mpr ⟨hword.isArgument, hargs⟩
    exact (h.ne_nil_and_trimmed hparts).2
  · cases h with
    | single => exact (by decide : Trimmed [])
    | cons _ _ hrest => cases hrest

/-- **A line is read as its word and what follows it.** -/
theorem parse_line (h : Line (word :: args) line) (hword : IsWord word ∨ word = "" ∧ args = [])
    (hargs : ∀ a ∈ args, IsArgument a) :
    ∃ rest, parse line = ofWord word rest ∧ Rest args rest := by
  obtain ⟨hline, hbefore, hbody, hbehind⟩ := h
  have hsolid : ∀ c ∈ word.toList, isBlank c = false := by
    rcases hword with hword | ⟨rfl, -⟩
    · exact hword.solid
    · exact fun c hc => absurd hc List.not_mem_nil
  -- Trimming takes the blanks around the body and no more.
  have htrimmed := hbody.trimmed hword hargs
  obtain ⟨rest, hsplit, hrest⟩ := split_spaced hbody hsolid hargs
  refine ⟨rest, ?_, hrest⟩
  simp only [parse, hline, trimBoth_blanks hbefore htrimmed hbehind, hsplit, String.ofList_toList]

/-! ## What an order needs behind its word -/

theorem argument_of_ne_nil (h : rest ≠ []) :
    argument word what rest = .ok (String.ofList rest) :=
  if_neg (by simpa using h)

theorem rest_single (h : Rest [text] rest) : rest = text.toList := by
  cases h with
  | some h =>
    cases h with
    | single => rfl
    | cons _ _ hrest => cases hrest

theorem argument_single (h : Rest [text] rest) (htext : IsArgument text) :
    argument word what rest = .ok text := by
  rw [rest_single h, argument_of_ne_nil htext.toList_ne_nil, String.ofList_toList]

theorem argument_map (h : Rest [text] rest) (htext : IsArgument text) (f : String → Order) :
    (argument word what rest).map f = .ok (f text) := by
  rw [argument_single h htext]
  rfl

/-- The first of two parts has no blanks, so that the second one is found behind it. -/
theorem split_pair (h : Rest [part, text] rest) (hpart : IsWord part) (htext : IsArgument text) :
    split rest = (part.toList, text.toList) ∧ rest ≠ [] := by
  have hargs : ∀ a ∈ [part, text], IsArgument a :=
    List.forall_mem_cons.mpr ⟨hpart.isArgument, by simpa using htext⟩
  cases h with
  | some h =>
    obtain ⟨behind, hsplit, hbehind⟩ := split_spaced h hpart.solid (by simpa using htext)
    rw [rest_single hbehind] at hsplit
    exact ⟨hsplit, (h.ne_nil_and_trimmed hargs).1⟩

/-! ## Identifiers with commas -/

/-- To cut at commas is what the library calls to split on one. -/
theorem splitCommas_eq_splitOn (cs : List Char) : splitCommas cs = cs.splitOn ',' := by
  induction cs with
  | nil => rfl
  | cons c cs ih =>
    rw [List.splitOn, List.splitOnP_cons_eq_if_modifyHead, ← List.splitOn, ← ih]
    by_cases hc : c = ','
    · rw [if_pos (by simpa using hc), hc, splitCommas]
    · -- a character that is no comma goes in front of the first part
      rw [if_neg (by simpa using hc), splitCommas.eq_3 c cs (by simpa using hc)]
      cases hparts : splitCommas cs with
      | cons part parts => rfl
      | nil => exact absurd (ih ▸ hparts) (List.splitOn_ne_nil _ _)

/-- Joined by commas, trimmed texts make up a trimmed text. Induction on the texts: the first one is
the front, and the others joined are the back. -/
theorem intercalate_ne_nil_and_trimmed (hne : ids ≠ []) (h : ∀ id ∈ ids, IsArgument id) :
    [','].intercalate (ids.map String.toList) ≠ [] ∧
      Trimmed ([','].intercalate (ids.map String.toList)) := by
  induction ids with
  | nil => exact absurd rfl hne
  | cons id rest ih =>
    have hid := h id List.mem_cons_self
    cases rest with
    | nil => simpa using ⟨hid.nonempty, hid.trimmed⟩
    | cons next rest =>
      obtain ⟨hrest, htrimmed⟩ := ih (by simp) fun id hid => h id (List.mem_cons_of_mem _ hid)
      rw [List.map_cons, List.map_cons, List.intercalate_cons_cons, List.append_assoc]
      refine ⟨by simp [hid.toList_ne_nil], ?_⟩
      exact hid.trimmed.append hid.toList_ne_nil htrimmed hrest [',']

theorem toList_joined (hne : ids ≠ []) :
    (joined ids).toList = [','].intercalate (ids.map String.toList) := by
  rw [joined, if_neg (by simpa using hne), String.toList_intercalate]
  rfl

/-- Joined identifiers make up an argument, also where there are none of them: that is what the
comma alone is for. -/
theorem isArgument_joined (h : ∀ id ∈ ids, IsArgument id) : IsArgument (joined ids) := by
  by_cases hids : ids = []
  · subst hids
    exact (by decide : IsWord ",").isArgument
  · obtain ⟨hne, htrimmed⟩ := intercalate_ne_nil_and_trimmed hids h
    rw [← toList_joined hids] at hne htrimmed
    exact ⟨fun hempty => hne (String.toList_eq_nil_iff.mpr hempty), htrimmed⟩

/-- **Joined identifiers are told apart again**, since none of them has a comma of its own. -/
theorem identifiers_joined (h : ∀ id ∈ ids, IsArgument id ∧ ',' ∉ id.toList) :
    identifiers (joined ids) = ids := by
  by_cases hids : ids = []
  · subst hids
    rfl
  · -- Each of the three steps of the reader leaves the identifiers as they are.
    have hparts : splitCommas (joined ids).toList = ids.map String.toList := by
      rw [toList_joined hids, splitCommas_eq_splitOn, List.splitOn_intercalate ',' _ (by simpa)]
      simpa using fun id hid => (h id hid).2
    have htrim : (ids.map String.toList).map trimBoth = ids.map String.toList := by
      rw [List.map_map]
      exact List.map_congr_left fun id hid => trimBoth_of_trimmed (h id hid).1.trimmed
    have hkept : (ids.map String.toList).filter (!·.isEmpty) = ids.map String.toList := by
      refine List.filter_eq_self.mpr fun part hpart => ?_
      obtain ⟨id, hid, rfl⟩ := List.mem_map.mp hpart
      simpa using (h id hid).1.nonempty
    rw [identifiers, hparts, htrim, hkept, List.map_map]
    simp

/-! ## Well-formed orders are read -/

theorem isArgument_of_numeral (h : Decimal.parse? text = some percent) : IsArgument text :=
  IsWord.isArgument ⟨Decimal.ne_empty_of_parse? h, Decimal.isBlank_of_parse? h⟩

/-- A typed number is read as the volume if it is one. -/
theorem volume?_eq (hread : Decimal.parse? text = some percent) (hlow : 0 ≤ percent)
    (hhigh : percent ≤ 100) : volume? text = .ok (.volume percent) := by
  simp only [volume?, hread]
  rw [if_pos (by simp [hlow, hhigh])]

/-- What follows the word for a new station is one or two arguments, and the first one tells which.
-/
theorem creation_eq (hwf : (create request).WellFormed) (hargs : (create request).HasArguments args)
    (h : Rest args rest) : creation rest = .ok (.create request) := by
  cases request with
  | fromSong | fromArtist =>
    obtain rfl := hargs
    rw [rest_single h]
    rfl
  | fromGenre id | fromSearch id =>
    obtain rfl := hargs
    obtain ⟨hsplit, -⟩ := split_pair h (by decide) hwf
    simp [creation, hsplit, hwf.nonempty]

/-- An identifier ends at the first blank, and the name may have blanks of its own. -/
theorem renameOf_eq (hid : IsWord id) (hname : IsArgument name) (h : Rest [id, name] rest) :
    renameOf (String.ofList rest) = .ok (.rename id name) := by
  obtain ⟨hsplit, -⟩ := split_pair h hid hname
  simp [renameOf, hsplit, hname.nonempty]

/-- What calls an order is a word without blanks. The status can do without one, and has no
arguments. -/
theorem isWord_or_bare (h : word ∈ o.words) (hargs : o.HasArguments args) :
    IsWord word ∨ word = "" ∧ args = [] := by
  cases o with
  | status =>
    rcases List.mem_pair.mp h with rfl | rfl
    · exact .inl (by decide)
    · exact .inr ⟨rfl, hargs⟩
  | _ =>
    left
    simp only [words] at h
    clear hargs
    revert word
    decide

/-- What follows the word of a well-formed order is read as that order. -/
theorem ofWord_rest (hwf : o.WellFormed) (hword : word ∈ o.words) (hargs : o.HasArguments args)
    (hrest : Rest args rest) : ofWord word rest = .ok o := by
  cases o with
  | station id | search id | delete id | seeds id | unseed id =>
    obtain rfl := List.mem_singleton.mp hword
    obtain rfl := hargs
    exact argument_map hrest hwf _
  | volume percent =>
    obtain ⟨text, rfl, hread⟩ := hargs
    obtain ⟨hlow, hhigh, -⟩ := hwf
    have htext := isArgument_of_numeral hread
    have hvolume : (argument word "a percentage" rest).bind volume? = .ok (.volume percent) := by
      rw [argument_single hrest htext]
      exact volume?_eq hread hlow hhigh
    rcases List.mem_pair.mp hword with rfl | rfl
    · exact hvolume
    · exact hvolume
  | create request =>
    obtain rfl := List.mem_singleton.mp hword
    exact creation_eq hwf hargs hrest
  | rename id name =>
    obtain rfl := List.mem_singleton.mp hword
    obtain rfl := hargs
    obtain ⟨hid, hname⟩ := hwf
    show (argument _ _ rest).bind renameOf = _
    rw [argument_of_ne_nil (split_pair hrest hid hname).2]
    exact renameOf_eq hid hname hrest
  | quickMix ids =>
    obtain rfl := List.mem_singleton.mp hword
    obtain rfl := hargs
    have htext : IsArgument (joined ids) := isArgument_joined fun id hid => (hwf id hid).1
    show (argument _ _ rest).map (fun text => Order.quickMix (identifiers text)) = _
    rw [argument_map hrest htext, identifiers_joined hwf]
  | _ =>
    -- The other orders have words only.
    obtain rfl := hargs
    obtain rfl : rest = [] := by cases hrest with
      | none => rfl
      | some h => cases h
    simp only [words, List.mem_cons, List.not_mem_nil, or_false] at hword
    rcases hword with rfl | rfl | rfl <;> rfl

/-! ## What is read is well-formed -/

theorem trimmed_split : Trimmed (split cs).2 := trimmed_trimBoth _

/-- What is read as an argument has no blanks around it, since the rest of a line has none. -/
theorem isArgument_of_argument (hrest : Trimmed rest) (h : argument word what rest = .ok text) :
    IsArgument text := by
  unfold argument at h
  split at h
  · cases h
  · next hne =>
    obtain rfl := Except.ok.inj h
    exact isArgument_ofList (by simpa using hne) hrest

theorem wellFormed_of_argument_map {f : String → Order}
    (h : (argument word what rest).map f = .ok o) (hrest : Trimmed rest)
    (hf : ∀ text, IsArgument text → (f text).WellFormed) : o.WellFormed := by
  cases hargument : argument word what rest with
  | error e =>
    rw [hargument] at h
    cases h
  | ok text =>
    rw [hargument] at h
    obtain rfl := Except.ok.inj h
    exact hf text (isArgument_of_argument hrest hargument)

/-- A volume is read only within its range, and what is in a range is a number. -/
theorem wellFormed_of_volume? (h : volume? text = .ok o) : o.WellFormed := by
  unfold volume? at h
  split at h
  · cases h
  · split at h
    · next hrange =>
      obtain rfl := Except.ok.inj h
      simp only [Bool.and_eq_true, decide_eq_true_eq] at hrange
      exact ⟨hrange.1, hrange.2, Decimal.isNaN_of_le hrange.1⟩
    · cases h

/-- Of the four requests two have an identifier, and it is what was left of the line. -/
theorem wellFormed_of_creation (h : creation rest = .ok o) : o.WellFormed := by
  unfold creation at h
  dsimp only at h
  split at h
  · obtain rfl := Except.ok.inj h
    trivial
  · obtain rfl := Except.ok.inj h
    trivial
  · split at h
    · cases h
    · next hne =>
      obtain rfl := Except.ok.inj h
      exact isArgument_ofList (by simpa using hne) trimmed_split
  · split at h
    · cases h
    · next hne =>
      obtain rfl := Except.ok.inj h
      exact isArgument_ofList (by simpa using hne) trimmed_split
  · cases h

/-- The identifier of a new name is cut at a blank, so it has none, and the name is trimmed. -/
theorem wellFormed_of_renameOf (hne : cs ≠ []) (hcs : Trimmed cs)
    (h : renameOf (String.ofList cs) = .ok o) : o.WellFormed := by
  unfold renameOf at h
  rw [String.toList_ofList] at h
  dsimp only at h
  split at h
  · cases h
  · next hname =>
    obtain rfl := Except.ok.inj h
    -- The text does not begin with a blank, so that something stands before the first one.
    obtain ⟨c, rest, rfl⟩ := List.exists_cons_of_ne_nil hne
    have hc : isBlank c = false := hcs.front c rfl
    refine ⟨⟨?_, fun x hx => ?_⟩, isArgument_ofList (by simpa using hname) trimmed_split⟩
    · simp [split, splitBlank, hc]
    · rw [String.toList_ofList] at hx
      simpa using List.mem_takeWhile_imp hx

/-- No part has a comma in it. Induction on the text: a comma begins a new part, and anything else
goes to the first one. -/
theorem comma_not_mem {part : List Char} (h : part ∈ splitCommas cs) : ',' ∉ part := by
  induction cs generalizing part with
  | nil =>
    obtain rfl := List.mem_singleton.mp h
    exact List.not_mem_nil
  | cons c cs ih =>
    by_cases hc : c = ','
    · subst hc
      rcases List.mem_cons.mp h with rfl | h
      · exact List.not_mem_nil
      · exact ih h
    · rw [splitCommas.eq_3 c cs (by simpa using hc)] at h
      have hne : ',' ≠ c := fun heq => hc heq.symm
      cases hparts : splitCommas cs with
      | nil =>
        rw [hparts] at h
        obtain rfl := List.mem_singleton.mp h
        simpa using hne
      | cons first others =>
        rw [hparts] at h ih
        rcases List.mem_cons.mp h with rfl | h
        · exact List.not_mem_cons_of_ne_of_not_mem hne (ih List.mem_cons_self)
        · exact ih (List.mem_cons_of_mem _ h)

/-- Each identifier of a list was trimmed and is not empty, and its commas are where the list was
cut. -/
theorem wellFormed_identifiers (text : String) : (quickMix (identifiers text)).WellFormed := by
  intro id hid
  obtain ⟨kept, hkept, rfl⟩ := List.mem_map.mp hid
  obtain ⟨hmem, hne⟩ := List.mem_filter.mp hkept
  obtain ⟨part, hpart, rfl⟩ := List.mem_map.mp hmem
  refine ⟨isArgument_ofList (by simpa using hne) (trimmed_trimBoth part), ?_⟩
  rw [String.toList_ofList]
  exact fun hcomma => comma_not_mem hpart (mem_of_mem_trimBoth hcomma)

theorem wellFormed_of_argument_bind {read : String → Except OrderError Order}
    (h : (argument word what rest).bind read = .ok o)
    (hread : rest ≠ [] → read (String.ofList rest) = .ok o → o.WellFormed) : o.WellFormed := by
  unfold argument at h
  split at h
  · cases h
  · next hne => exact hread (by simpa using hne) h

/-- Whatever the word, what comes out is well-formed. -/
theorem wellFormed_of_ofWord (hrest : Trimmed rest) (h : ofWord word rest = .ok o) :
    o.WellFormed := by
  unfold ofWord at h
  split at h
  -- An order without arguments, one with an argument, a volume, a creation, a name, or a mix.
  all_goals first
    | (cases h <;> trivial)
    | exact wellFormed_of_argument_map h hrest fun _ htext => htext
    | exact wellFormed_of_argument_bind h fun _ => wellFormed_of_volume?
    | exact wellFormed_of_creation h
    | exact wellFormed_of_argument_bind h fun hne => wellFormed_of_renameOf hne hrest
    | exact wellFormed_of_argument_map h hrest fun text _ => wellFormed_identifiers text

theorem wellFormed_of_parse (h : parse line = .ok o) : o.WellFormed :=
  wellFormed_of_ofWord trimmed_split h

/-! ## The reader and the grammar -/

theorem isArgument_of_hasArguments (hwf : o.WellFormed) (hargs : o.HasArguments args) :
    ∀ a ∈ args, IsArgument a := by
  cases o with
  | station id | search id | delete id | seeds id | unseed id =>
    obtain rfl := hargs
    exact List.forall_mem_singleton.mpr hwf
  | volume percent =>
    obtain ⟨text, rfl, hread⟩ := hargs
    exact List.forall_mem_singleton.mpr (isArgument_of_numeral hread)
  | create request =>
    cases request with
    | fromSong | fromArtist =>
      obtain rfl := hargs
      exact List.forall_mem_singleton.mpr (by decide)
    | fromGenre id | fromSearch id =>
      obtain rfl := hargs
      refine List.forall_mem_cons.mpr ⟨by decide, ?_⟩
      exact List.forall_mem_singleton.mpr hwf
  | rename id name =>
    obtain rfl := hargs
    obtain ⟨hid, hname⟩ := hwf
    refine List.forall_mem_cons.mpr ⟨hid.isArgument, ?_⟩
    exact List.forall_mem_singleton.mpr hname
  | quickMix ids =>
    obtain rfl := hargs
    exact List.forall_mem_singleton.mpr (isArgument_joined fun id hid => (hwf id hid).1)
  | _ =>
    obtain rfl := hargs
    exact List.forall_mem_nil _

/-- **A line for a well-formed order is read as that order.** -/
theorem parse_of_isLine (hwf : o.WellFormed) (h : o.IsLine line) : parse line = .ok o := by
  obtain ⟨word, hword, args, hargs, hline⟩ := h
  obtain ⟨rest, hparse, hrest⟩ :=
    parse_line hline (isWord_or_bare hword hargs) (isArgument_of_hasArguments hwf hargs)
  rw [hparse, ofWord_rest hwf hword hargs hrest]

/-- **The reader of lines accepts its grammar.** What it reads is an order that can be typed,
whatever the line, and each line for such an order is read as that order, with any of its words, or
none for the status, with any numeral for a volume and with any blanks around the parts. -/
theorem parse_exact :
    (∀ line o, parse line = .ok o → o.WellFormed) ∧
      ∀ line o, o.WellFormed → IsLine line o → parse line = .ok o :=
  ⟨fun _ _ => wellFormed_of_parse, fun _ _ => parse_of_isLine⟩

/-- A name of two words, with blanks of two kinds around it. -/
theorem parse_exact_rename :
    let line := "  rename\t7  Late Night "
    let o : Order := .rename "7" "Late Night"
    parse line = .ok o ∧ o.WellFormed := by
  intro line o
  have hname : Spaced ["7", "Late Night"] ("7".toList ++ ([' ', ' '] ++ "Late Night".toList)) :=
    .cons (by decide) (List.all_eq_true.mp rfl) (.single _)
  have hbody : Spaced ["rename", "7", "Late Night"] "rename\t7  Late Night".toList :=
    @Spaced.cons "rename" _ ['\t'] _ (by decide) (List.all_eq_true.mp rfl) hname
  have hparts : line.toList = [' ', ' '] ++ "rename\t7  Late Night".toList ++ [' '] := by decide
  have hline : IsLine line o :=
    ⟨"rename", by decide, _, rfl,
      .mk hparts (List.all_eq_true.mp rfl) hbody (List.all_eq_true.mp rfl)⟩
  have hread : parse line = .ok o := parse_exact.2 line o ⟨by decide, by decide⟩ hline
  exact ⟨hread, parse_exact.1 line o hread⟩

end Tuner.Console.Order
