import ScriptSuite.Proofs.Host.Lapse

/-!
How long a job is waited for.

A wait is given up only when it has lasted for its whole limit (`Job.wait_exhausted`), and one that
sees the end of the job sees it with every longer limit as well (`Job.wait_longer`). So a limit
beyond all points in time that can be represented is as good as none (`Job.wait_unlimited`).
-/

namespace ScriptSuite

/-- The point in time can be represented. -/
def Instant.Fits (t : Instant) : Prop :=
  t.nanoseconds / 1000000000 < horizon

instance : DecidablePred Instant.Fits :=
  fun t => inferInstanceAs (Decidable (t.nanoseconds / 1000000000 < Instant.horizon))

namespace Instant

variable {t t' : Instant} {d : Duration}

/-- A point in time cannot be represented if and only if it does not fit. -/
theorem plus?_eq_none_iff_not_fits : t.plus? d = none ↔ ¬(t.later d.nanoseconds).Fits := by
  rw [plus?_eq_none_iff, Fits, later, Nat.not_lt]

theorem Fits.mono (fits : t'.Fits) (before : t.nanoseconds ≤ t'.nanoseconds) : t.Fits :=
  Nat.lt_of_le_of_lt (Nat.div_le_div_right before) fits

end Instant

namespace Host

variable {h h' : Host} {id : ProcessId} {limit limit' : Instant}

/-- Time that passes up to a limit ends at that limit, however many wake-ups there are. -/
theorem now_passFrom (limit : Instant) (steps : Nat) (h : Host) :
    (passFrom limit steps h).clock.now = limit := by
  induction steps generalizing h with
  | zero => rfl
  | succ steps ih =>
    rw [passFrom]
    split
    · rfl
    · split
      · exact ih _
      · rfl

theorem limit_le_passUntil (h : Host) (limit : Instant) :
    limit.nanoseconds ≤ (h.passUntil limit).clock.now.nanoseconds := by
  rw [passUntil]
  split
  · assumption
  · exact Nat.le_of_eq (congrArg Instant.nanoseconds (now_passFrom limit _ h).symm)

/-- A pause lasts at least as long as it is asked for. -/
theorem lasts_sleep (h : Host) (d : Duration) :
    h.clock.now.nanoseconds + d.nanoseconds ≤ (h.sleep d).clock.now.nanoseconds :=
  h.limit_le_passUntil (h.clock.now.later d.nanoseconds)

theorem look_of_collect_none (runs : h.collect id = (none, h')) : h' = h.look := by
  rcases h.collect_cases id with ⟨status, ended, -⟩ | ⟨-, looked, -⟩
  · rw [runs] at ended
    cases ended
  · rwa [runs] at looked

/-- If there are looks enough, a process is looked at until the limit is reached. -/
theorem pollEnd_exhausted {looks : Nat} (never : pollEnd id limit looks h = (none, h'))
    (enough : limit.nanoseconds ≤
      h.clock.now.nanoseconds + looks * pollInterval.nanoseconds) :
    limit.nanoseconds ≤ h'.clock.now.nanoseconds := by
  induction looks generalizing h with
  | zero =>
    cases never
    simpa using enough
  | succ looks ih =>
    rw [pollEnd] at never
    split at never
    · cases never
    · next h₁ runs =>
      have looked := elapsing_lapses.look h
      rw [← look_of_collect_none runs] at looked
      have timed := elapsing_lapses.time h₁
      split at never
      next now h₂ time =>
      rw [time] at timed
      split at never
      · next reached =>
        cases never
        have same : h₁.time.1 = h₁.time.2.clock.now := rfl
        rw [time] at same
        exact same ▸ of_decide_eq_true reached
      · -- every further look comes one interval later
        refine ih never ?_
        have slept := h₂.lasts_sleep pollInterval
        have past := Nat.le_trans looked.later timed.later
        rw [Nat.succ_mul] at enough
        dsimp only at past slept ⊢
        omega

/-- The end of a process that is seen is seen with every later limit. -/
theorem pollEnd_longer {looks looks' : Nat} {status : ExitStatus}
    (ended : pollEnd id limit looks h = (some status, h'))
    (later : limit.nanoseconds ≤ limit'.nanoseconds) (more : looks ≤ looks') :
    pollEnd id limit' looks' h = (some status, h') := by
  induction looks generalizing h looks' with
  | zero => cases ended
  | succ looks ih =>
    obtain ⟨looks', rfl⟩ := Nat.exists_eq_add_one_of_ne_zero (Nat.ne_zero_of_lt more)
    rw [pollEnd] at ended ⊢
    cases collected : h.collect id with
    | mk found h₁ =>
      rw [collected] at ended
      cases found with
      | some status' => exact ended
      | none =>
        simp only at ended ⊢
        split at ended
        · cases ended
        · next notReached =>
          have before : ¬h₁.time.1.reached limit' = true := by
            intro reached
            exact notReached (decide_eq_true (Nat.le_trans later (of_decide_eq_true reached)))
          rw [if_neg before]
          exact ih ended (Nat.le_of_succ_le_succ more)

end Host

/-- The looks at a process last for the whole of a length of time. -/
theorem le_looksFor_mul (d : Duration) :
    d.nanoseconds ≤ looksFor d * pollInterval.nanoseconds := by
  have interval : pollInterval.nanoseconds = 10000000 := rfl
  rw [looksFor, interval]
  omega

/-- A longer wait has more looks. -/
theorem looksFor_mono {d d' : Duration} (le : d.nanoseconds ≤ d'.nanoseconds) :
    looksFor d ≤ looksFor d' :=
  Nat.add_le_add_right (Nat.div_le_div_right le) 2

namespace Job

variable {j j' : Job} {timeout longer : Duration} {h h' : Host} {fault : JobFault}
  {output : Output}

/-- A wait is not given up before its limit. -/
theorem wait_exhausted (waited : j.wait timeout h = (.error fault, j', h')) :
    (h.time.1.later timeout.nanoseconds).nanoseconds ≤ h'.clock.now.nanoseconds := by
  have started : h.time.1 = h.time.2.clock.now := rfl
  rw [wait] at waited
  cases collected : j.output with
  | some known =>
    rw [collected] at waited
    cases waited
  | none =>
    rw [collected] at waited
    generalize h.time = time at waited started ⊢
    obtain ⟨start, h₁⟩ := time
    simp only at waited started ⊢
    have lasts := le_looksFor_mul timeout
    generalize looksFor timeout = looks at waited lasts
    cases polled : Host.pollEnd j.process.id (start.later timeout.nanoseconds) looks h₁ with
    | mk found h₂ =>
      rw [polled] at waited
      cases found with
      | some status => cases waited
      | none =>
        cases waited
        have enough : (start.later timeout.nanoseconds).nanoseconds ≤
            h₁.clock.now.nanoseconds + looks * pollInterval.nanoseconds := by
          rw [← started]
          exact Nat.add_le_add_left lasts _
        exact Nat.le_trans (Host.pollEnd_exhausted polled enough) (Host.elapsing_lapses.time h₂).later

/-- A wait that sees the end of the job sees it with every longer limit. -/
theorem wait_longer (waited : j.wait timeout h = (.ok output, j', h'))
    (le : timeout.nanoseconds ≤ longer.nanoseconds) :
    j.wait longer h = (.ok output, j', h') := by
  rw [wait] at waited ⊢
  cases collected : j.output with
  | some known => rwa [collected] at waited
  | none =>
    rw [collected] at waited
    generalize h.time = time at waited ⊢
    obtain ⟨start, h₁⟩ := time
    simp only at waited ⊢
    have more := looksFor_mono le
    generalize looksFor timeout = looks at waited more
    generalize looksFor longer = looks' at more ⊢
    have later : (start.later timeout.nanoseconds).nanoseconds ≤
        (start.later longer.nanoseconds).nanoseconds := Nat.add_le_add_left le _
    cases polled : Host.pollEnd j.process.id (start.later timeout.nanoseconds) looks h₁ with
    | mk found h₂ =>
      rw [polled] at waited
      cases found with
      | some status => rwa [Host.pollEnd_longer polled later more]
      | none => cases waited

/-- With a limit that ends at a point in time that cannot be represented, the end of the job is
waited for as it is with all longer limits, as long as the clock itself can be represented. -/
theorem wait_unlimited (overflow : h.time.1.plus? timeout = none)
    (fits : (j.wait timeout h).2.2.clock.now.Fits) :
    (∃ output, (j.wait timeout h).1 = .ok output) ∧
      ∀ longer : Duration, timeout.nanoseconds ≤ longer.nanoseconds →
        j.wait longer h = j.wait timeout h := by
  rcases waited : j.wait timeout h with ⟨_ | output, j', h'⟩
  · rw [waited] at fits
    have beyond := Instant.plus?_eq_none_iff_not_fits.mp overflow
    exact absurd (fits.mono (wait_exhausted waited)) beyond
  · exact ⟨⟨output, rfl⟩, fun longer le => wait_longer waited le⟩

end Job
end ScriptSuite
