import ScriptSuite.Time.Instant

/-!
The clock of the host.

Time passes while the host sleeps, and also between two looks at it or at a process. How
much passes before each look is given by the clock's pace, so that a statement about
all paces is one about all interleavings.
-/

namespace ScriptSuite

/-- A clock with the pace at which looks at it take time. The pace is any function, so that between
two looks any number of processes may go on or none. -/
structure Clock where
  now : Instant
  /-- The nanoseconds that pass before the look of that number. -/
  pace : Nat → Nat
  /-- How many looks there have been. -/
  looks : Nat
  deriving Inhabited

namespace Clock

/-- A clock whose looks take no time. -/
def steady (now : Instant) : Clock := ⟨now, fun _ => 0, 0⟩

def nextLook (c : Clock) : Instant := c.now.later (c.pace c.looks)

end Clock
end ScriptSuite
