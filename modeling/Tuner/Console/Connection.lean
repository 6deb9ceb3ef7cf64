import Tuner.Console.Run

/-!
# Telling of the connection

The console tells of every change of the connection in a line of its own, before the view is brought
up to date. An attempt to open a socket that fails ends like a close.
-/

namespace Tuner.Console

/-- What is printed when the link has opened or closed. -/
def connectionLine (url : String) (isLive : Bool) : String :=
  if isLive then s!"● connected to {url}"
  else "○ disconnected (type \x60reconnect\x60 to try again)"

namespace Screen

/-- What a failed attempt to open the newest socket reports. -/
def failure (s : Screen) : SocketEvent :=
  ⟨s.session.link.generation, .closed⟩

/-- The screen after an attempt to open a socket has failed, if one was under way. -/
def fail (now : Moment) (s : Screen) : Screen :=
  if s.session.link.isConnecting then s.step now (.receive s.failure) else s

/-- The lines that are printed when an attempt has failed, if one was under way. -/
def failLines (now : Moment) (s : Screen) : List String :=
  if s.session.link.isConnecting then
    (s.session.link.heard s.failure).map (fun h => connectionLine s.session.link.url h.2)
      ++ (s.stepItems now (.receive s.failure)).flatMap Item.lines
  else []

end Screen

end Tuner.Console
