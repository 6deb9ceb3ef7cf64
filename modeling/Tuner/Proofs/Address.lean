import Mathlib.Data.List.Basic
import Tuner.Address
import Tuner.Proofs.Text.Trim

/-!
# Which origins have a socket

The address of a socket is found by cutting: blanks off both ends of the origin, the scheme off its
front, the host at the first delimiter, and the slashes off the front of the path. Here an origin is
put together from its parts instead (`IsPage`), and a path from slashes and what follows them
(`Slashed`). No origin is put together in two ways (`IsPage.unique`), so the parts are its own, and
the address is made of them and of nothing else.

An origin has its host, lacks its host, or begins with no scheme. `form` says that there is no
fourth case and what comes of each, and `address_derived` is the same law read from the side of the
results.
-/

namespace Tuner.Address

/-! ## The parts of an origin -/

/-- How a page is reached, which is also how its socket is reached. -/
inductive Scheme where
  | plain
  | secure
  deriving Repr, DecidableEq

/-- What the origin of a page begins with. -/
def Scheme.page : Scheme → String
  | plain => "http://"
  | secure => "https://"

/-- What the address of a socket begins with. -/
def Scheme.socket : Scheme → String
  | plain => "ws://"
  | secure => "wss://"

/-- A character that cannot be part of a host. -/
def IsDelimiter (c : Char) : Prop :=
  c = '/' ∨ c = '?' ∨ c = '#'

/-- An origin that is, but for blanks around it, a scheme, a host with its port, and a tail that the
host ends at. The host may be empty here. -/
structure IsPage (origin : String) (scheme : Scheme) (authority tail : List Char) : Prop where
  text : Text.Padded origin.toList (scheme.page.toList ++ (authority ++ tail))
  within : ∀ c ∈ authority, ¬ IsDelimiter c
  ends : ∀ c, tail.head? = some c → IsDelimiter c

/-- A path that is a bare one with any number of slashes in front. -/
structure Slashed (path bare : List Char) : Prop where
  text : ∃ n, path = List.replicate n '/' ++ bare
  front : bare.head? ≠ some '/'

variable {origin path : String} {scheme scheme' : Scheme}
variable {authority authority' tail tail' rest bare : List Char}

/-! ## Cutting -/

theorem endsHost_iff {c : Char} : endsHost c = true ↔ IsDelimiter c := by
  simp [endsHost, IsDelimiter, or_assoc]

/-- A page with one of the two schemes is cut behind it, and the scheme of the socket is known. -/
theorem splitScheme?_page (scheme : Scheme) (rest : List Char) :
    ∃ name, splitScheme? (scheme.page.toList ++ rest) = some (name, rest) ∧
      name ++ "://" = scheme.socket := by
  cases scheme with
  | plain => exact ⟨"ws", rfl, rfl⟩
  | secure => exact ⟨"wss", rfl, rfl⟩

theorem exists_scheme_of_splitScheme? {cs : List Char} {name : String}
    (h : splitScheme? cs = some (name, rest)) :
    ∃ scheme : Scheme, cs = scheme.page.toList ++ rest := by
  unfold splitScheme? at h
  split at h
  · rename_i found hfound
    cases h
    exact ⟨.secure, (List.append_eq_of_isPrefixOf?_eq_some hfound).symm⟩
  · obtain ⟨found, hfound, hrest⟩ := Option.map_eq_some_iff.mp h
    cases hrest
    exact ⟨.plain, (List.append_eq_of_isPrefixOf?_eq_some hfound).symm⟩

/-- A host ends where its tail begins, as no character of a host ends one. -/
theorem host_append (hwithin : ∀ c ∈ authority, ¬ IsDelimiter c)
    (hends : ∀ c, tail.head? = some c → IsDelimiter c) : host (authority ++ tail) = authority := by
  -- the tail begins with a character that ends the host, or it is empty
  have hstop : tail.takeWhile (!endsHost ·) = [] := by
    cases tail with
    | nil => rfl
    | cons c rest =>
      rw [List.takeWhile_cons_of_neg]
      simpa [endsHost_iff] using hends c rfl
  rw [host, List.takeWhile_append_of_pos, hstop, List.append_nil]
  intro c hc
  simpa [← endsHost_iff] using hwithin c hc

/-- To say that a path has slashes in front of a bare one, and to drop them, is the same. -/
theorem slashed_iff_dropWhile {cs : List Char} :
    Slashed cs bare ↔ cs.dropWhile (· == '/') = bare := by
  constructor
  · intro h
    obtain ⟨n, rfl⟩ := h.text
    rw [List.dropWhile_append_of_pos (by simp)]
    cases bare with
    | nil => rfl
    | cons c rest =>
      rw [List.dropWhile_cons_of_neg]
      exact fun hc => h.front (congrArg some (eq_of_beq hc))
  · rintro rfl
    have hslashes : cs.takeWhile (· == '/') =
        List.replicate (cs.takeWhile (· == '/')).length '/' :=
      List.eq_replicate_iff.mpr ⟨rfl, fun c hc =>
        eq_of_beq (List.all_eq_true.mp List.all_takeWhile c hc)⟩
    refine ⟨⟨(cs.takeWhile (· == '/')).length, ?_⟩, fun hfront => ?_⟩
    · rw [← hslashes, List.takeWhile_append_dropWhile]
    · have hnot := List.head?_dropWhile_not (· == '/') cs
      rw [hfront] at hnot
      simp at hnot

theorem slashed_iff : Slashed path.toList bare ↔ String.ofList bare = barePath path := by
  rw [slashed_iff_dropWhile, barePath, String.ofList_inj, eq_comm]

/-- To say that there are blanks around a name, and to trim them, is the same. -/
theorem padded_iff_trim {named : String} :
    Text.Padded origin.toList named.toList ↔ named = Text.trim origin := by
  rw [Text.padded_iff, Text.trim, String.ext_iff, String.toList_ofList, eq_comm]

/-! ## Origins and their parts -/

theorem IsPage.toList_trim (h : IsPage origin scheme authority tail) :
    (Text.trim origin).toList = scheme.page.toList ++ (authority ++ tail) := by
  rw [Text.trim, String.toList_ofList, Text.padded_iff.mp h.text]

/-- An origin has one set of parts at most. -/
theorem IsPage.unique (h : IsPage origin scheme authority tail)
    (h' : IsPage origin scheme' authority' tail') :
    scheme = scheme' ∧ authority = authority' ∧ tail = tail' := by
  have htext := h.toList_trim.symm.trans h'.toList_trim
  have hscheme : scheme = scheme' := by
    -- The fifth character tells a secure page from a plain one.
    have hfifth := congrArg (·[4]?) htext
    cases scheme <;> cases scheme' <;> first | rfl | cases hfifth
  subst hscheme
  have hrest : authority ++ tail = authority' ++ tail' := List.append_cancel_left htext
  have hauthority : authority = authority' := by
    rw [← host_append h.within h.ends, hrest, host_append h'.within h'.ends]
  subst hauthority
  exact ⟨rfl, rfl, List.append_cancel_left hrest⟩

/-- An origin that begins with a scheme has parts. -/
theorem exists_isPage (h : scheme.page.toList <+: (Text.trim origin).toList) :
    ∃ authority tail, IsPage origin scheme authority tail := by
  obtain ⟨rest, hrest⟩ := h
  refine ⟨host rest, rest.dropWhile (!endsHost ·), ?_, fun c hc => ?_, fun c hc => ?_⟩
  · rw [host, List.takeWhile_append_dropWhile, hrest]
    exact padded_iff_trim.mpr rfl
  · have hin := List.all_eq_true.mp List.all_takeWhile c hc
    simpa [← endsHost_iff] using hin
  · -- what stopped the host is what the tail begins with
    have hnot := List.head?_dropWhile_not (!endsHost ·) rest
    rw [hc] at hnot
    simpa [← endsHost_iff] using hnot

/-! ## What comes of an origin -/

/-- What comes of a page is told by its parts. Its tail makes no difference. -/
theorem ofOrigin_of_isPage (h : IsPage origin scheme authority tail) (path : String) :
    ofOrigin origin path =
      if authority.isEmpty then .error (.missingHost (Text.trim origin))
      else .ok (scheme.socket ++ String.ofList authority ++ "/" ++ barePath path) := by
  obtain ⟨name, hsplit, hname⟩ := splitScheme?_page scheme (authority ++ tail)
  rw [ofOrigin, h.toList_trim, hsplit]
  dsimp only
  rw [host_append h.within h.ends, hname]

theorem ofOrigin_of_ne_nil (h : IsPage origin scheme authority tail) (hne : authority ≠ [])
    (path : String) : ofOrigin origin path =
      .ok (scheme.socket ++ String.ofList authority ++ "/" ++ barePath path) := by
  rw [ofOrigin_of_isPage h, if_neg (by simpa using hne)]

theorem ofOrigin_of_hostless (h : IsPage origin scheme [] tail) (path : String) :
    ofOrigin origin path = .error (.missingHost (Text.trim origin)) := by
  rw [ofOrigin_of_isPage h]
  rfl

/-- Without a scheme of its own an origin is not cut, and that is the fault. -/
theorem ofOrigin_of_no_scheme
    (h : ∀ scheme : Scheme, ¬ scheme.page.toList <+: (Text.trim origin).toList) (path : String) :
    ofOrigin origin path = .error (.unsupportedScheme (Text.trim origin)) := by
  have hnone : splitScheme? (Text.trim origin).toList = none := by
    rw [Option.eq_none_iff_forall_ne_some]
    rintro ⟨name, rest⟩ hsome
    obtain ⟨scheme, hscheme⟩ := exists_scheme_of_splitScheme? hsome
    exact h scheme ⟨rest, hscheme.symm⟩
  rw [ofOrigin, hnone]

/-- The forms that an origin can have, each with what comes of it. -/
inductive Form (origin path : String) : Prop where
  | page (scheme : Scheme) (authority tail : List Char)
      (hpage : IsPage origin scheme authority tail) (hne : authority ≠ [])
      (hresult : ofOrigin origin path =
        .ok (scheme.socket ++ String.ofList authority ++ "/" ++ barePath path))
  | hostless (scheme : Scheme) (tail : List Char) (hpage : IsPage origin scheme [] tail)
      (hresult : ofOrigin origin path = .error (.missingHost (Text.trim origin)))
  | other (hnone : ∀ scheme : Scheme, ¬ scheme.page.toList <+: (Text.trim origin).toList)
      (hresult : ofOrigin origin path = .error (.unsupportedScheme (Text.trim origin)))

/-- **Every origin has one of the three forms.** The laws below compare a result with what its form
gives. -/
theorem form (origin path : String) : Form origin path := by
  by_cases h : ∃ scheme : Scheme, scheme.page.toList <+: (Text.trim origin).toList
  · obtain ⟨scheme, hscheme⟩ := h
    obtain ⟨authority, tail, hpage⟩ := exists_isPage hscheme
    by_cases hne : authority = []
    · subst hne
      exact .hostless scheme tail hpage (ofOrigin_of_hostless hpage path)
    · exact .page scheme authority tail hpage hne (ofOrigin_of_ne_nil hpage hne path)
  · have hnone : ∀ scheme : Scheme, ¬ scheme.page.toList <+: (Text.trim origin).toList :=
      fun scheme hscheme => h ⟨scheme, hscheme⟩
    exact .other hnone (ofOrigin_of_no_scheme hnone path)

/-- There is an address exactly for a page with a host. -/
theorem ofOrigin_eq_ok_iff {address : String} :
    ofOrigin origin path = .ok address ↔
      ∃ scheme authority tail bare, IsPage origin scheme authority tail ∧ authority ≠ [] ∧
        Slashed path.toList bare ∧
        address = scheme.socket ++ String.ofList authority ++ "/" ++ String.ofList bare := by
  constructor
  · intro h
    cases form origin path with
    | page scheme authority tail hpage hne hresult =>
      cases hresult.symm.trans h
      exact ⟨scheme, authority, tail, path.toList.dropWhile (· == '/'), hpage, hne,
        slashed_iff_dropWhile.mpr rfl, rfl⟩
    | hostless scheme tail hpage hresult => cases hresult.symm.trans h
    | other hnone hresult => cases hresult.symm.trans h
  · rintro ⟨scheme, authority, tail, bare, hpage, hne, hbare, rfl⟩
    rw [ofOrigin_of_ne_nil hpage hne, slashed_iff.mp hbare]

theorem ofOrigin_eq_missingHost_iff {named : String} :
    ofOrigin origin path = .error (.missingHost named) ↔
      Text.Padded origin.toList named.toList ∧ ∃ scheme tail, IsPage origin scheme [] tail := by
  rw [padded_iff_trim]
  constructor
  · intro h
    cases form origin path with
    | page scheme authority tail hpage hne hresult => cases hresult.symm.trans h
    | hostless scheme tail hpage hresult =>
      cases hresult.symm.trans h
      exact ⟨rfl, scheme, tail, hpage⟩
    | other hnone hresult => cases hresult.symm.trans h
  · rintro ⟨rfl, scheme, tail, hpage⟩
    exact ofOrigin_of_hostless hpage path

theorem ofOrigin_eq_unsupportedScheme_iff {named : String} :
    ofOrigin origin path = .error (.unsupportedScheme named) ↔
      Text.Padded origin.toList named.toList ∧
        ∀ scheme : Scheme, ¬ scheme.page.toList <+: named.toList := by
  rw [padded_iff_trim]
  constructor
  · intro h
    cases form origin path with
    | page scheme authority tail hpage hne hresult => cases hresult.symm.trans h
    | hostless scheme tail hpage hresult => cases hresult.symm.trans h
    | other hnone hresult =>
      cases hresult.symm.trans h
      exact ⟨rfl, hnone⟩
  · rintro ⟨rfl, hnone⟩
    exact ofOrigin_of_no_scheme hnone path

/-- What is to be said of the address of a socket. -/
structure Derived (origin path : String) : Prop where
  /-- There is an address if the origin has a host. It is made of the scheme, the host, one slash
  and the bare path. -/
  address : ∀ address, ofOrigin origin path = .ok address ↔
    ∃ scheme authority tail bare, IsPage origin scheme authority tail ∧ authority ≠ [] ∧
      Slashed path.toList bare ∧
      address = scheme.socket ++ String.ofList authority ++ "/" ++ String.ofList bare
  /-- The host is missing if there is a scheme with no host behind it. The fault names the origin
  without the blanks around it. -/
  missingHost : ∀ named, ofOrigin origin path = .error (.missingHost named) ↔
    Text.Padded origin.toList named.toList ∧ ∃ scheme tail, IsPage origin scheme [] tail
  /-- The scheme is unsupported if the origin begins with neither of the two. -/
  unsupportedScheme : ∀ named, ofOrigin origin path = .error (.unsupportedScheme named) ↔
    Text.Padded origin.toList named.toList ∧
      ∀ scheme : Scheme, ¬ scheme.page.toList <+: named.toList
  /-- The parts of an origin are its own. -/
  unique : ∀ scheme scheme' authority authority' tail tail',
    IsPage origin scheme authority tail → IsPage origin scheme' authority' tail' →
      scheme = scheme' ∧ authority = authority' ∧ tail = tail'
  /-- Two origins with one scheme and one host have one address. -/
  hostOnly : ∀ other scheme authority tail tail', authority ≠ [] →
    IsPage origin scheme authority tail → IsPage other scheme authority tail' →
      ofOrigin other path = ofOrigin origin path

/-- **The address of a socket follows from the scheme and the host of an origin**, and there is one
exactly if the origin has both. -/
theorem address_derived (origin path : String) : Derived origin path where
  address _ := ofOrigin_eq_ok_iff
  missingHost _ := ofOrigin_eq_missingHost_iff
  unsupportedScheme _ := ofOrigin_eq_unsupportedScheme_iff
  unique _ _ _ _ _ _ h h' := h.unique h'
  hostOnly other scheme authority tail tail' hne hpage hother := by
    rw [ofOrigin_of_ne_nil hpage hne, ofOrigin_of_ne_nil hother hne]

/-- The page has a path and a query of its own, and the path of the socket has slashes to spare. -/
example : ofOrigin " https://player:3000/a?b#c\n" "//ws/" = .ok "wss://player:3000/ws/" :=
  rfl

end Tuner.Address
