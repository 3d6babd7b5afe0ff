import Mathlib.Logic.Relation
import ScriptSuite.Proofs.Host.Passing

/-!
Places that are left to the processes.

A place is undisturbed between two hosts if what stands there has not changed but by what the
processes of the first host have come to do (`Undisturbed`). However much time passes, no place
is disturbed (`passing_undisturbed`), and without running processes nothing changes at all
(`Undisturbed.find?_eq`).
-/

namespace ScriptSuite

namespace Host

/-- What the running processes of a host, and those that they start, may come to do. -/
inductive Descends (h : Host) : Behaviour → Prop where
  | running {p : Process} {next : List Signal → Behaviour} (signals : List Signal) :
      p ∈ h.processes → p.state.next? = some next → Descends h (next signals)
  | paused {b : Behaviour} {root : Node} {length : Duration} {reaction : Signal → Reaction}
      {next : List Signal → Behaviour} (signals : List Signal) : Descends h b →
      (b.proceed root).stop = .paused length reaction next → Descends h (next signals)
  | child {b c : Behaviour} {root : Node} : Descends h b → c ∈ (b.proceed root).children →
      Descends h c
  | idle : Descends h .idle

end Host

/-- Something happens to a tree of files and leaves what stands at a place as it is, or a process
goes on that does one of the things given. -/
inductive Node.Spares (q : Place) (runs : Behaviour → Prop) : Node → Node → Prop where
  | elsewhere {root root' : Node} : root'.find? q = root.find? q → Spares q runs root root'
  | process {b : Behaviour} (root : Node) : runs b → Spares q runs root (b.proceed root).files

namespace Host

/-- Nothing has changed what stands at a place but what the processes of the first host have come
to do, and the processes of the second host are descended from those. -/
structure Undisturbed (q : Place) (h h' : Host) : Prop where
  files : Relation.ReflTransGen (Node.Spares q h.Descends) h.files h'.files
  descends : ∀ b, h'.Descends b → h.Descends b

variable {q : Place} {h h' h'' : Host}

/-- It is enough that the running processes are descended from those of the first host. -/
theorem descends_of_running
    (running : ∀ p ∈ h'.processes, ∀ next, p.state.next? = some next →
      ∀ signals, h.Descends (next signals)) {b : Behaviour} (descends : h'.Descends b) :
    h.Descends b := by
  induction descends with
  | running signals mem goesOn => exact running _ mem _ goesOn signals
  | paused signals _ stop ih => exact .paused signals ih stop
  | child _ mem ih => exact .child ih mem
  | idle => exact .idle

theorem Inherits.descends (inherits : h.Inherits h') {b : Behaviour} (descends : h'.Descends b) :
    h.Descends b := by
  refine descends_of_running (fun p' mem next goesOn signals => ?_) descends
  obtain ⟨p, there, same⟩ := inherits.next p' mem next goesOn
  exact .running signals there same

theorem Undisturbed.refl (q : Place) (h : Host) : Undisturbed q h h :=
  ⟨.refl, fun _ descends => descends⟩

theorem Undisturbed.trans (first : Undisturbed q h h') (second : Undisturbed q h' h'') :
    Undisturbed q h h'' := by
  constructor
  · refine first.files.trans (second.files.lift id ?_)
    intro root root' spares
    cases spares with
    | elsewhere same => exact .elsewhere same
    | process _ runs => exact .process root (first.descends _ runs)
  · intro b descends
    exact first.descends b (second.descends b descends)

theorem Undisturbed.of_find? (same : h'.files.find? q = h.files.find? q)
    (processes : h'.processes = h.processes) : Undisturbed q h h' :=
  ⟨.single (.elsewhere same), fun _ => (Inherits.of_eq processes).descends⟩

/-- What a process does after its next stop is descended from what it does up to there. -/
theorem Descends.stateAfter {b : Behaviour} (descends : h.Descends b) (root : Node) (now : Instant)
    {next : List Signal → Behaviour}
    (goesOn : (stateAfter now (b.proceed root).stop).next? = some next) (signals : List Signal) :
    h.Descends (next signals) := by
  cases stop : (b.proceed root).stop with
  | ended status =>
    rw [stop] at goesOn
    cases goesOn
  | paused length reaction next' =>
    rw [stop] at goesOn
    cases goesOn
    exact .paused signals descends stop
  | stuck =>
    rw [stop] at goesOn
    cases goesOn
    exact .idle

/-- A process that goes on does what it would have done, and so do the processes that it
starts. -/
theorem Undisturbed.resume {p : Process} (mem : p ∈ h.processes) (before : Undisturbed q h h') :
    Undisturbed q h (h'.resume p) := by
  rw [Host.resume]
  split
  · next wake reaction next noted running =>
    have descends : h.Descends (next noted) := .running noted mem (by rw [running]; rfl)
    refine ⟨before.files.tail (.process h'.files descends), fun b => descends_of_running ?_⟩
    intro p' there after goesOn signals
    rcases List.mem_append.mp there with old | new
    · obtain ⟨r, stood, rfl⟩ := List.mem_map.mp old
      by_cases same : r.id = p.id
      · rw [if_pos same] at goesOn
        exact descends.stateAfter h'.files h'.clock.now goesOn signals
      · rw [if_neg same] at goesOn
        exact before.descends _ (.running signals stood goesOn)
    · obtain ⟨i, inside, rfl⟩ := List.mem_mapIdx.mp new
      cases goesOn
      exact .child descends (List.getElem_mem inside)
  · exact before

/-- A file that no running program can change outlasts any time that passes. -/
theorem passing_undisturbed (q : Place) : Passing (Undisturbed q) where
  trans := Undisturbed.trans
  same := by
    intro h h' files inherits _
    exact ⟨.single (.elsewhere (congrArg (Node.find? · q) files)), fun _ => inherits.descends⟩
  resume := Undisturbed.resume

/-- What the processes of a host come to do is nothing if none of them is running. -/
theorem Descends.eq_idle (none : ∀ p ∈ h.processes, p.state.next? = none) {b : Behaviour}
    (descends : h.Descends b) : b = .idle := by
  induction descends with
  | running _ mem goesOn =>
    rw [none _ mem] at goesOn
    cases goesOn
  | paused _ _ stop ih =>
    subst ih
    cases stop
  | child _ mem ih =>
    subst ih
    cases mem
  | idle => rfl

/-- Without running processes what stands at an undisturbed place stays as it is. -/
theorem Undisturbed.find?_eq (none : ∀ p ∈ h.processes, p.state.next? = none)
    (undisturbed : Undisturbed q h h') : h'.files.find? q = h.files.find? q := by
  obtain ⟨files, -⟩ := undisturbed
  generalize h'.files = root at files
  induction files with
  | refl => rfl
  | tail _ spares ih =>
    cases spares with
    | elsewhere same => exact same.trans ih
    | process _ runs =>
      rw [runs.eq_idle none]
      exact ih

end Host
end ScriptSuite
