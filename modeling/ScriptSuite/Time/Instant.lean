import ScriptSuite.Time.Duration

/-!
Points in time.

A point is counted in nanoseconds from an arbitrary start. The number of whole seconds
is held in a signed word of 64 bits, so that a point can lie too far ahead to be
represented; `Instant.plus?` says when.
-/

namespace ScriptSuite

/-- A point in time, in nanoseconds from an arbitrary start. -/
structure Instant where
  nanoseconds : Nat
  deriving DecidableEq, Repr, Inhabited

namespace Instant

/-- The number of whole seconds that no point in time reaches. -/
def horizon : Nat := Text.signedLimit64

/-- The point a length of time later, if it can be represented. The caller has to say what happens
otherwise. -/
def plus? (t : Instant) (d : Duration) : Option Instant :=
  let n := t.nanoseconds + d.nanoseconds
  if n / 1000000000 < horizon then some ⟨n⟩ else none

/-- The point some nanoseconds later. -/
def later (t : Instant) (n : Nat) : Instant :=
  ⟨t.nanoseconds + n⟩

/-- The length of time from `start` to `t`, nothing if `t` comes first. -/
def since (t start : Instant) : Duration :=
  ⟨t.nanoseconds - start.nanoseconds⟩

/-- Whether `t` is `other` or comes after it. -/
def reached (t other : Instant) : Bool :=
  other.nanoseconds ≤ t.nanoseconds

theorem plus?_eq_none_iff {t : Instant} {d : Duration} :
    t.plus? d = none ↔ horizon ≤ (t.nanoseconds + d.nanoseconds) / 1000000000 := by
  simp only [plus?, ite_eq_right_iff, reduceCtorEq, imp_false, Nat.not_lt]

end Instant
end ScriptSuite
