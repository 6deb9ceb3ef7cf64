import Tuner.Creation

/-!
# Dialogs

Five dialogs lead to the commands on stations. Each goes through its own stages in order, and may
jump ahead but not back. `Flow` is the progress of one dialog with all that was chosen and typed in
it; to cancel or finish a dialog returns it to the first stage with nothing chosen. `Flows` holds
one flow for each dialog.
-/

namespace Tuner

inductive Dialog where
  | createStation
  | addMusic
  | rename
  | delete
  | seeds
  deriving Repr, DecidableEq

inductive Stage where
  | selectSource
  | selectStation
  | search
  | editName
  | reviewSeeds
  | confirm
  deriving Repr, DecidableEq

def Stage.name : Stage → String
  | selectSource => "SelectSource"
  | selectStation => "SelectStation"
  | search => "Search"
  | editName => "EditName"
  | reviewSeeds => "ReviewSeeds"
  | confirm => "Confirm"

namespace Dialog

def all : List Dialog :=
  [createStation, addMusic, rename, delete, seeds]

def name : Dialog → String
  | createStation => "CreateStation"
  | addMusic => "AddMusic"
  | rename => "Rename"
  | delete => "Delete"
  | seeds => "Seeds"

/-- The stages of a dialog, in order. -/
def stages : Dialog → List Stage
  | createStation => [.selectSource, .search, .confirm]
  | addMusic => [.selectStation, .search, .confirm]
  | rename => [.selectStation, .editName, .confirm]
  | delete => [.selectStation, .confirm]
  | seeds => [.selectStation, .reviewSeeds, .confirm]

end Dialog

/-- The progress of one dialog. -/
structure Flow where
  /-- The index of the current stage. -/
  position : Nat := 0
  /-- The station that the dialog is about. -/
  station : Option String := none
  /-- The music, genre or seed that was picked. -/
  selection : Option String := none
  /-- The search text or the new name of a station. -/
  text : String := ""
  /-- What a new station is made from. -/
  source : Option CreationKind := none
  deriving Repr, DecidableEq, Inhabited

namespace Flow

def stage? (d : Dialog) (f : Flow) : Option Stage :=
  d.stages[f.position]?

def isAt (d : Dialog) (s : Stage) (f : Flow) : Bool :=
  f.stage? d == some s

/-- Whether a dialog is at its first stage with nothing chosen or typed. -/
def isIdle (f : Flow) : Bool :=
  f.position == 0 && f.station.isNone && f.selection.isNone && f.text.isEmpty && f.source.isNone

/-- Whether a dialog has a stage after the current one. -/
def canAdvance (d : Dialog) (f : Flow) : Bool :=
  f.position + 1 < d.stages.length

/-- The flow at its next stage. At the last stage it stays. -/
def advance (d : Dialog) (f : Flow) : Flow :=
  if f.canAdvance d then { f with position := f.position + 1 } else f

/-- The position of a stage, if a jump to it does not go back. -/
def ahead? (d : Dialog) (s : Stage) (f : Flow) : Option Nat :=
  (d.stages.idxOf? s).filter (f.position ≤ ·)

/-- The flow at a later stage, without the stages between. It stays if that would go back. -/
def skipTo (d : Dialog) (s : Stage) (f : Flow) : Flow :=
  match f.ahead? d s with
  | some position => { f with position }
  | none => f

end Flow

/-- The progress of all dialogs. -/
structure Flows where
  createStation : Flow := {}
  addMusic : Flow := {}
  rename : Flow := {}
  delete : Flow := {}
  seeds : Flow := {}
  deriving Repr, DecidableEq, Inhabited

namespace Flows

def get (fs : Flows) : Dialog → Flow
  | .createStation => fs.createStation
  | .addMusic => fs.addMusic
  | .rename => fs.rename
  | .delete => fs.delete
  | .seeds => fs.seeds

def set (fs : Flows) (d : Dialog) (f : Flow) : Flows :=
  match d with
  | .createStation => { fs with createStation := f }
  | .addMusic => { fs with addMusic := f }
  | .rename => { fs with rename := f }
  | .delete => { fs with delete := f }
  | .seeds => { fs with seeds := f }

@[simp] theorem get_set (fs : Flows) (d e : Dialog) (f : Flow) :
    (fs.set d f).get e = if d = e then f else fs.get e := by
  cases d <;> cases e <;> rfl

/-- The dialogs that are not idle. -/
def active (fs : Flows) : List Dialog :=
  Dialog.all.filter fun d => !(fs.get d).isIdle

end Flows

end Tuner
