import Tuner.Console.Connection
import Tuner.Places
import Tuner.Settings

/-!
# The console program

Looks up the settings, and then runs one order per line of its input until the input ends or the
user quits. The program opens no sockets of its own: every attempt to connect fails, as if the
player could not be reached.
-/

namespace Tuner.Program

open Console

/-- The present moment. -/
def present : IO Moment := do
  return (← IO.monoNanosNow : Nat)

def printLines (lines : List String) : IO Unit := do
  for line in lines do
    IO.println line
  (← IO.getStdout).flush

/-- The text of a file, if it exists. -/
def readFile? (path : String) : IO (Option String) := do
  try
    return some (← IO.FS.readFile path)
  catch
    | .noFileOrDirectory .. => return none
    | e => throw e

/-- The settings of the user. A missing file is written, and one at fault is passed over. -/
def settings (home : String) : IO Settings := do
  try
    let path := Places.settingsFile home
    let file ← readFile? path
    if file.isNone then
      IO.FS.createDirAll (Places.settingsDirectory home)
      for text in Settings.fileAfterLoad file do
        IO.FS.writeFile path text
    return (Settings.load? file).getD {}
  catch _ => return {}

/-- The screen after an attempt to connect, if one was under way. -/
def refuse (s : Screen) : IO Screen := do
  let now ← present
  printLines (s.failLines now)
  return s.fail now

/-- Runs the orders of the input from a screen on. -/
partial def loop (input : IO.FS.Stream) (s : Screen) : IO Unit := do
  let line ← input.getLine
  if line.isEmpty then return
  match Order.parse line with
  | .error e =>
    printLines [s!"! {e.message}"]
    loop input s
  | .ok .quit => return
  | .ok o =>
    let now ← present
    printLines ((s.orderItems now o).flatMap Item.lines)
    loop input (← refuse (s.order now o))

/-- Runs the program with some settings. The result is the exit code. -/
def run (settings : Settings) : IO UInt32 := do
  match settings.address with
  | .error e =>
    IO.eprintln s!"Error: {e.message}"
    return 1
  | .ok url =>
    let session := Session.new (← present) url settings.deck
    printLines [connectionLine url session.isConnected]
    let session := (session.modifyLink (.listen "console")).modifyLink .connect
    loop (← IO.getStdin) (← refuse { session })
    return 0

end Tuner.Program

/-- The program. -/
def main : IO UInt32 := do
  let home := (← IO.getEnv "HOME").getD "."
  Tuner.Program.run (← Tuner.Program.settings home)
