import Tuner.Text.Blank

/-!
# Trimmed text

A text is trimmed if it neither begins nor ends with a blank. That is what `trim` leaves, and what
it leaves alone.
-/

namespace Tuner.Text

/-- A text that neither begins nor ends with a blank. -/
structure Trimmed (cs : List Char) : Prop where
  front : ∀ c, cs.head? = some c → isBlank c = false
  back : ∀ c, cs.getLast? = some c → isBlank c = false

theorem trimmed_iff {cs : List Char} : Trimmed cs ↔
    cs.head?.all (!isBlank ·) = true ∧ cs.getLast?.all (!isBlank ·) = true := by
  simp only [Option.all_eq_true, Bool.not_eq_true']
  exact ⟨fun h => ⟨h.front, h.back⟩, fun h => ⟨h.1, h.2⟩⟩

instance (cs : List Char) : Decidable (Trimmed cs) :=
  decidable_of_iff _ trimmed_iff.symm

/-- Between a trimmed beginning and a trimmed end there may be anything. -/
theorem Trimmed.append {front back : List Char} (hfront : Trimmed front) (hfne : front ≠ [])
    (hback : Trimmed back) (hbne : back ≠ []) (middle : List Char) :
    Trimmed (front ++ (middle ++ back)) := by
  constructor
  · intro c hc
    obtain ⟨first, rest, rfl⟩ := List.exists_cons_of_ne_nil hfne
    exact hfront.front c hc
  · intro c hc
    have hlast := List.getLast?_eq_some_getLast hbne
    rw [List.getLast?_append, List.getLast?_append, hlast, Option.some_or, Option.some_or] at hc
    exact hback.back c (hlast.trans hc)

theorem trimStart_of_front {cs : List Char} (h : ∀ c, cs.head? = some c → isBlank c = false) :
    trimStart cs = cs := by
  cases cs with
  | nil => rfl
  | cons c rest =>
    rw [trimStart, List.dropWhile_cons_of_neg]
    simp [h c rfl]

theorem front_trimStart (cs : List Char) :
    ∀ c, (trimStart cs).head? = some c → isBlank c = false := by
  intro c hc
  have hnot := List.head?_dropWhile_not isBlank cs
  rw [show cs.dropWhile isBlank = trimStart cs from rfl, hc] at hnot
  exact hnot

theorem trimEnd_eq (cs : List Char) : trimEnd cs = (trimStart cs.reverse).reverse := rfl

/-- **What is left by trimming is trimmed.** -/
theorem trimmed_trimBoth (cs : List Char) : Trimmed (trimBoth cs) := by
  constructor
  · -- What is cut from the end leaves the first character, or nothing at all.
    intro c hc
    have hprefix : trimBoth cs <+: trimStart cs := by
      rw [trimBoth, trimEnd_eq, ← List.reverse_suffix, List.reverse_reverse]
      exact List.dropWhile_suffix isBlank
    refine front_trimStart cs c ?_
    obtain ⟨rest, hrest⟩ := hprefix
    rw [← hrest, List.head?_append, hc]
    rfl
  · intro c hc
    rw [trimBoth, trimEnd_eq, List.getLast?_reverse] at hc
    exact front_trimStart _ c hc

/-- To trim a text is to leave out some of it. -/
theorem mem_of_mem_trimBoth {cs : List Char} {c : Char} (h : c ∈ trimBoth cs) : c ∈ cs := by
  have hsublist : (trimBoth cs).Sublist cs := by
    rw [trimBoth, trimEnd_eq, ← List.reverse_sublist, List.reverse_reverse]
    have hstart : (trimStart cs).reverse.Sublist cs.reverse :=
      List.reverse_sublist.mpr (List.dropWhile_sublist isBlank)
    exact (List.dropWhile_sublist isBlank).trans hstart
  exact hsublist.subset h

/-- A trimmed text is left as it is. -/
theorem trimBoth_of_trimmed {cs : List Char} (h : Trimmed cs) : trimBoth cs = cs := by
  have hback : trimEnd cs = cs := by
    rw [trimEnd_eq, trimStart_of_front, List.reverse_reverse]
    intro c hc
    rw [List.head?_reverse] at hc
    exact h.back c hc
  rw [trimBoth, trimStart_of_front h.front, hback]

/-- Blanks around a text are cut off. -/
theorem trimBoth_blanks {before body behind : List Char} (hbefore : ∀ c ∈ before, isBlank c = true)
    (hbody : Trimmed body) (hbehind : ∀ c ∈ behind, isBlank c = true) :
    trimBoth (before ++ body ++ behind) = body := by
  have hfront : trimStart (before ++ body ++ behind) = trimStart (body ++ behind) := by
    rw [List.append_assoc]
    exact List.dropWhile_append_of_pos hbefore
  have hback : trimEnd (body ++ behind) = body := by
    have hrest : trimStart (behind.reverse ++ body.reverse) = trimStart body.reverse :=
      List.dropWhile_append_of_pos fun c hc => hbehind c (List.mem_reverse.mp hc)
    rw [trimEnd_eq, List.reverse_append, hrest, trimStart_of_front, List.reverse_reverse]
    intro c hc
    rw [List.head?_reverse] at hc
    exact hbody.back c hc
  cases body with
  | nil =>
    -- with no body all blanks go at the front
    have hnone : trimStart behind = [] := by
      rw [← List.append_nil behind]
      exact List.dropWhile_append_of_pos hbehind
    rw [trimBoth, hfront, List.nil_append, hnone]
    rfl
  | cons c rest =>
    rw [trimBoth, hfront, trimStart_of_front, hback]
    exact fun x hx => hbody.front x hx

/-- A text that is a trimmed body with blanks around it. -/
structure Padded (cs body : List Char) : Prop where
  trimmed : Trimmed body
  around : ∃ before behind, cs = before ++ body ++ behind ∧
    (∀ c ∈ before, isBlank c = true) ∧ ∀ c ∈ behind, isBlank c = true

/-- Every text is padded in just one way, and its body is what trimming leaves. -/
theorem padded_iff {cs body : List Char} : Padded cs body ↔ trimBoth cs = body := by
  constructor
  · intro h
    obtain ⟨before, behind, rfl, hbefore, hbehind⟩ := h.around
    exact trimBoth_blanks hbefore h.trimmed hbehind
  · rintro rfl
    -- the two parts that are cut off are the blanks around
    have hback : trimBoth cs ++ ((trimStart cs).reverse.takeWhile isBlank).reverse =
        trimStart cs := by
      rw [trimBoth, trimEnd, ← List.reverse_append, List.takeWhile_append_dropWhile,
        List.reverse_reverse]
    refine ⟨trimmed_trimBoth cs, cs.takeWhile isBlank,
      ((trimStart cs).reverse.takeWhile isBlank).reverse, ?_, ?_, ?_⟩
    · rw [List.append_assoc, hback]
      exact List.takeWhile_append_dropWhile.symm
    · exact List.all_eq_true.mp List.all_takeWhile
    · exact fun c hc => List.all_eq_true.mp List.all_takeWhile c (List.mem_reverse.mp hc)

/-- What is trimmed once is trimmed. -/
theorem trim_trim (s : String) : trim (trim s) = trim s := by
  rw [trim, trim, String.toList_ofList, trimBoth_of_trimmed (trimmed_trimBoth _)]

end Tuner.Text
