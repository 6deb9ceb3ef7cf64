import Mathlib.Data.List.Basic
import Tuner.Console.History
import Tuner.Console.Printed

/-!
# What one turn prints

A view prints one block for each part of the deck, and an order may print items of its own before
it. Every item tells by itself which block it is of (`Item.kind`), so what is read of one kind is
read from one block (`filterMap_items`). A turn of the screen either changes nothing and prints
nothing, or ends with a view of the session it has reached (`Turn`).
-/

namespace Tuner.Console

/-! ## Kinds of items -/

/-- The part of the view that prints an item. An order prints the others. -/
inductive Item.Kind where
  | status
  | prompt
  | genres
  | results
  | seeds
  | notice
  | order
  deriving Repr, DecidableEq

def Item.kind : Item → Item.Kind
  | .status _ => .status
  | .prompt _ => .prompt
  | .genres _ => .genres
  | .results _ => .results
  | .seeds _ => .seeds
  | .notice _ _ => .notice
  | .stations _ _ | .cancelled _ | .creating | .help => .order

variable {α : Type} {now : Moment} {force : Bool} {d : Deck} {v : View} {item : Item}
  {kind kind' : Item.Kind} {reads : Item → Option α}

namespace View

/-- What the view prints of one kind. -/
def block (now : Moment) (force : Bool) (d : Deck) (v : View) : Item.Kind → List Item
  | .status => v.statusItems now force d
  | .prompt => v.promptItems d
  | .genres => v.genreItems d
  | .results => v.resultItems d
  | .seeds => v.seedItems d
  | .notice => noticeItems now d
  | .order => []

/-- Each block prints items of its own kind only. -/
theorem kind_of_mem_block (h : item ∈ v.block now force d kind) : item.kind = kind := by
  cases kind with
  | status =>
    have hstatus : ∃ line, item = .status line := by
      change item ∈ v.statusItems now force d at h
      unfold statusItems at h
      split at h
      · exact ⟨_, List.mem_singleton.mp h⟩
      · exact ⟨_, List.mem_singleton.mp (List.mem_ite_nil_right.mp h).2⟩
    obtain ⟨line, rfl⟩ := hstatus
    rfl
  | prompt =>
    have hmem := Option.mem_toList.mp (List.mem_ite_nil_right.mp h).2
    obtain ⟨station, -, rfl⟩ := Option.map_eq_some_iff.mp hmem
    rfl
  | genres =>
    rw [List.mem_singleton.mp (List.mem_ite_nil_right.mp h).2]
    rfl
  | results =>
    rw [List.mem_singleton.mp (List.mem_ite_nil_right.mp h).2]
    rfl
  | seeds =>
    have hmem := Option.mem_toList.mp (List.mem_ite_nil_right.mp h).2
    obtain ⟨info, -, rfl⟩ := Option.map_eq_some_iff.mp hmem
    rfl
  | notice =>
    obtain ⟨n, -, rfl⟩ := List.mem_map.mp h
    rfl
  | order => cases h

/-- What is read of one kind is not found in the block of another. -/
theorem filterMap_block_of_ne (hreads : ∀ item : Item, item.kind ≠ kind → reads item = none)
    (hne : kind' ≠ kind) : (v.block now force d kind').filterMap reads = [] :=
  List.filterMap_eq_nil_iff.mpr fun item hitem =>
    hreads item (by rwa [kind_of_mem_block hitem])

/-- What is read of one kind is in the block of that kind. -/
theorem filterMap_items (hreads : ∀ item : Item, item.kind ≠ kind → reads item = none) :
    (v.items now force d).filterMap reads = (v.block now force d kind).filterMap reads := by
  have hblocks : v.items now force d =
      [.status, .prompt, .genres, .results, .seeds, .notice].flatMap (v.block now force d) := by
    simp [items, block]
  have hother : ∀ kind' ≠ kind, (v.block now force d kind').filterMap reads = [] :=
    fun _ => filterMap_block_of_ne hreads
  rw [hblocks]
  cases kind with
  -- orders print outside the view
  | order =>
    simp (disch := decide) only [List.flatMap_cons, List.flatMap_nil, List.filterMap_append, hother,
      List.append_nil]
    rfl
  | _ =>
    simp (disch := decide) only [List.flatMap_cons, List.flatMap_nil, List.filterMap_append, hother,
      List.nil_append, List.append_nil]

end View

/-! ## What orders print -/

theorem Order.kind_of_mem_echo {o : Order} {succeeded : Bool} (h : item ∈ o.echo succeeded) :
    item.kind = .order := by
  unfold echo at h
  split at h
  · split at h
    · rw [List.mem_singleton.mp h]
      rfl
    · cases h
  · cases h

/-- What an order prints before the view is no listing. -/
theorem kind_of_mem_execute {o : Order} {s : Session} (h : item ∈ (execute now o s).printed) :
    item.kind = .order := by
  unfold execute at h
  cases hintents : o.intents? with
  | some intents =>
    rw [hintents] at h
    exact o.kind_of_mem_echo h
  | none =>
    rw [hintents] at h
    cases o with
    | cancel =>
      obtain ⟨dialog, -, hitem⟩ := List.mem_map.mp h
      rw [← hitem]
      rfl
    | stations | help =>
      rw [List.mem_singleton.mp h]
      rfl
    | _ => cases h

namespace Screen

variable {s : Screen} {op : Op}

/-! ## Turns -/

/-- The session that is viewed at the end of a turn. -/
def reached (now : Moment) (s : Screen) : Op → Session
  | .line text => typed now text s.session
  | .session op => s.session.step now op

/-- **A turn of the screen.** A line that is no order, and the order to quit, change nothing and are
not followed by a view. -/
inductive Turn (now : Moment) (s : Screen) (op : Op) : Prop where
  | unseen (reached : s.reached now op = s.session) (turn : s.turn now op = s)
      (items : s.turnItems now op = [])
  | seen (printed : List Item) (force : Bool) (own : ∀ item ∈ printed, item.kind = .order)
      (turn : s.turn now op = { s with session := s.reached now op }.refresh now)
      (items : s.turnItems now op =
        printed ++ s.view.items now force (s.reached now op).deck)

/-- A line is followed by a view unless it is no order or the order to quit. -/
theorem turn_line (now : Moment) (s : Screen) (text : String) : Turn now s (.line text) := by
  cases hparse : Order.parse text with
  | error e =>
    refine .unseen ?_ ?_ ?_
    · rw [reached, typed, hparse]
    · rw [turn, hparse]
    · rw [turnItems, hparse]
  | ok o =>
    have hreached : s.reached now (.line text) = (execute now o s.session).session :=
      typed_of_parse hparse
    by_cases hquit : o = .quit
    · -- The program ends without another view.
      subst hquit
      refine .unseen hreached ?_ ?_
      · rw [turn, hparse]
      · rw [turnItems, hparse]
    · refine .seen (execute now o s.session).printed (execute now o s.session).forced
        (fun item => kind_of_mem_execute) ?_ ?_
      · rw [turn, hparse, hreached]
        cases o with
        | quit => exact absurd rfl hquit
        | _ => rfl
      · rw [turnItems, hparse, hreached]
        cases o with
        | quit => exact absurd rfl hquit
        | _ => rfl

/-- **A turn shows nothing, or it ends with a view.** What is not typed always ends with one. -/
theorem turn_cases (now : Moment) (s : Screen) (op : Op) : Turn now s op := by
  cases op with
  | line text => exact turn_line now s text
  | session op =>
    have hreached : s.reached now (.session op) = s.session.step now op := rfl
    refine .seen [] false (List.forall_mem_nil _) ?_ ?_
    · rw [hreached, turn, step]
    · rw [hreached, turnItems, stepItems, refreshItems, List.nil_append]

/-- What is read of one kind at the end of a turn with a view. -/
theorem filterMap_seen {printed : List Item} (hreads : ∀ item : Item, item.kind ≠ kind →
    reads item = none) (hkind : kind ≠ .order) (hown : ∀ item ∈ printed, item.kind = .order) :
    (printed ++ v.items now force d).filterMap reads =
      (v.block now force d kind).filterMap reads := by
  have hnone : printed.filterMap reads = [] :=
    List.filterMap_eq_nil_iff.mpr fun item hitem =>
      hreads item (by rw [hown item hitem]; exact hkind.symm)
  rw [List.filterMap_append, hnone, List.nil_append, View.filterMap_items hreads]

/-! ## Histories -/

theorem run_concat (s : Screen) (history : List (Moment × Op)) (now : Moment) (op : Op) :
    s.run (history ++ [(now, op)]) = (s.run history).turn now op := by
  rw [run, List.foldl_concat]
  rfl

theorem printed_concat (s : Screen) (history : List (Moment × Op)) (now : Moment) (op : Op) :
    s.printed (history ++ [(now, op)]) =
      s.printed history ++ (s.run history).turnItems now op := by
  induction history generalizing s with
  | nil => exact List.append_nil _
  | cons entry rest ih =>
    rw [List.cons_append, printed, printed, ih, List.append_assoc]
    rfl

end Screen

end Tuner.Console
