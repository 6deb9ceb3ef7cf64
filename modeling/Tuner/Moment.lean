/-!
# Moments

Time is counted in nanoseconds from a fixed start. Nothing here reads a clock: whoever drives the
program says at which moment something happens.

Moments have no bounds here. A clock has: a moment that it cannot hold, as the end of a span of some
hundred years may be, stops a program, and such spans are out of scope.
-/

namespace Tuner

/-- A moment, in nanoseconds since the start. -/
abbrev Moment := Int

/-- A span of time, in nanoseconds. -/
abbrev Span := Nat

def Span.ofSeconds (n : Nat) : Span := n * 1000000000

def Span.ofMilliseconds (n : Nat) : Span := n * 1000000

end Tuner
