import ScriptSuite.Proofs.Suite.Accounting
import ScriptSuite.Proofs.Text.Trimming

/-!
Patterns that are asked for in a wrong way.

A command that checks a text against a pattern tells a misuse of its arguments apart from a text
that does not match, and no mark makes up for a misuse: the run fails (`run_of_misuse`,
`misuse_fails_iff`). There is one way round it. `grep` reads its file before it looks at anything
but the number of its arguments, and a file that cannot be read is a failed check like any other
(`Matcher.Unreadable`), which the marks `!` and `?` accept.
-/

namespace ScriptSuite

open Handler

namespace Matching

/-! ### What the arguments ask for -/

/-- The commands that check a text against a pattern. -/
inductive Matcher where
  | stdout
  | stderr
  | grep
  deriving DecidableEq, Repr

namespace Matcher

/-- The name of the command in scripts. -/
def name : Matcher → String
  | .stdout => "stdout"
  | .stderr => "stderr"
  | .grep => "grep"

/-- The handler of the command. -/
def run (language : PatternLanguage) : Matcher → Bool → List String → Handler Unit
  | .stdout => Matching.stdout language
  | .stderr => Matching.stderr language
  | .grep => Matching.grep language

/-- How many arguments there have to be besides a number of matches. -/
def size : Matcher → Nat
  | .stdout | .stderr => 1
  | .grep => 2

end Matcher

/-- What the first argument writes as the number of matches, if it asks for a number. -/
def countText? (arguments : List String) : Option String :=
  arguments.head?.bind fun first =>
    (Text.dropLead? countLead.toList first.toList).map String.ofList

/-- The number of matches that a text writes. -/
def count? (text : String) : Option Nat :=
  (Text.natural? text.toList).filter fun n => n < Text.limit64

/-- The arguments without the one that asks for a number of matches. -/
def positional (arguments : List String) : List String :=
  if (countText? arguments).isSome then arguments.tail else arguments

/-- The arguments of a command are a misuse, given how many there have to be: their number is
wrong, the number of matches is none or is asked for in a check that has to fail, or the pattern is
refused. -/
inductive Misuse (language : PatternLanguage) (size : Nat) (negated : Bool)
    (arguments : List String) : Prop where
  | size : (positional arguments).length ≠ size → Misuse language size negated arguments
  | count {text : String} : countText? arguments = some text → count? text = none →
      Misuse language size negated arguments
  | negated {text : String} : countText? arguments = some text → negated = true →
      Misuse language size negated arguments
  | pattern {pattern reason : String} {rest : List String} :
      positional arguments = pattern :: rest → language (linewise ++ pattern) = .error reason →
      Misuse language size negated arguments

/-- There are as many arguments as there have to be, and the command has to read a file that
cannot be read. -/
def Matcher.Unreadable (m : Matcher) (arguments : List String) (s : Session) : Prop :=
  m = .grep ∧ (positional arguments).length = 2 ∧
    ∃ file e, arguments.getLast? = some file ∧ s.textOfFile file = .error e

variable {language : PatternLanguage} {negated : Bool} {arguments : List String} {s : Session}

theorem countText?_eq_some_iff {text : String} :
    countText? arguments = some text ↔ ∃ rest, arguments = (countLead ++ text) :: rest := by
  cases arguments with
  | nil => simp [countText?]
  | cons first rest =>
    simp only [countText?, List.head?_cons, Option.bind_some, Option.map_eq_some_iff,
      Text.dropLead?_eq_some_iff, List.cons.injEq, exists_and_left, exists_eq', and_true]
    constructor
    · rintro ⟨cs, lead, rfl⟩
      rw [← String.ofList_toList (s := first), lead, String.ofList_append, String.ofList_toList]
    · rintro rfl
      exact ⟨text.toList, String.toList_append, String.ofList_toList⟩

theorem positional_of_none (uncounted : countText? arguments = none) :
    positional arguments = arguments := by
  rw [positional, uncounted]
  rfl

theorem positional_of_some {text : String} (counts : countText? arguments = some text) :
    positional arguments = arguments.tail := by
  rw [positional, counts]
  rfl

theorem splitCount_of_none (uncounted : countText? arguments = none) :
    splitCount arguments = .ok (none, positional arguments) := by
  rw [positional_of_none uncounted]
  cases arguments with
  | nil => rfl
  | cons first rest =>
    have unlike : Text.dropLead? countLead.toList first.toList = none := by
      simpa [countText?] using uncounted
    rw [splitCount, unlike]

/-- A first argument that asks for a number gives one or is misused; it is no pattern in either
case. -/
theorem splitCount_of_some {text : String} (counts : countText? arguments = some text) :
    splitCount arguments =
      match count? text with
      | some n => .ok (some n, positional arguments)
      | none => .error ("bad -count: " ++ Text.quoted (arguments.headD "")) := by
  obtain ⟨rest, rfl⟩ := countText?_eq_some_iff.mp counts
  have lead : Text.dropLead? countLead.toList (countLead ++ text).toList = some text.toList :=
    Text.dropLead?_eq_some_iff.mpr String.toList_append
  rw [positional_of_some counts, splitCount, lead, count?]
  rfl

/-! ### The handlers -/

/-- A pattern that cannot be read is a misuse, whatever the text is. -/
theorem matchPattern_of_refused {pattern reason : String}
    (refused : language (linewise ++ pattern) = .error reason) (negated : Bool)
    (count : Option Nat) (source text : String) (s : Session) :
    ∃ message, (matchPattern language negated count pattern source text).run s =
      .error (.error (.usage message)) s := by
  rw [matchPattern, refused]
  exact ⟨_, rfl⟩

/-- A misuse is found before the text is looked at. -/
theorem matchText_of_misuse (misuse : Misuse language 1 negated arguments)
    (source usageText text : String) (s : Session) :
    ∃ message, (matchText language negated arguments source usageText text).run s =
      .error (.error (.usage message)) s := by
  -- with one argument that is no number of matches, what is wrong is one of the other three
  have one {count : Option Nat} {pattern : String}
      (split : splitCount arguments = .ok (count, [pattern]))
      (wrong : (count.isSome && negated) = true ∨
        ∃ reason, language (linewise ++ pattern) = .error reason) :
      ∃ message, (matchText language negated arguments source usageText text).run s =
        .error (.error (.usage message)) s := by
    rw [matchText, split]
    cases both : count.isSome && negated with
    | true => exact ⟨_, by simp only [both]; rfl⟩
    | false =>
      obtain ⟨reason, refused⟩ := wrong.resolve_left (by simp [both])
      obtain ⟨message, ran⟩ := matchPattern_of_refused refused negated count source text s
      exact ⟨message, by simp only [both]; exact ran⟩
  have others {count : Option Nat} {rest : List String}
      (split : splitCount arguments = .ok (count, rest)) (wrong : rest.length ≠ 1) :
      ∃ message, (matchText language negated arguments source usageText text).run s =
        .error (.error (.usage message)) s := by
    rw [matchText, split]
    match rest, wrong with
    | [], _ => exact ⟨_, rfl⟩
    | [_], wrong => exact absurd rfl wrong
    | _ :: _ :: _, _ => exact ⟨_, rfl⟩
  cases counts : countText? arguments with
  | none =>
    have split := splitCount_of_none counts
    cases misuse with
    | size wrong => exact others split wrong
    | count counts' _ | negated counts' _ => cases counts.symm.trans counts'
    | @pattern pattern reason rest first refused =>
      cases rest with
      | nil => exact one (first ▸ split) (.inr ⟨reason, refused⟩)
      | cons => exact others split (by simp [first])
  | some written =>
    have split := splitCount_of_some counts
    cases number : count? written with
    | none =>
      rw [number] at split
      rw [matchText, split]
      exact ⟨_, rfl⟩
    | some n =>
      rw [number] at split
      cases misuse with
      | size wrong => exact others split wrong
      | count counts' none =>
        cases counts.symm.trans counts'
        cases number.symm.trans none
      | negated _ isNegated =>
        match rest : positional arguments with
        | [] => exact others split (by simp [rest])
        | [pattern] => exact one (rest ▸ split) (.inl (by simp [isNegated]))
        | _ :: _ :: _ => exact others split (by simp [rest])
      | @pattern pattern reason rest first refused =>
        cases rest with
        | nil => exact one (first ▸ split) (.inr ⟨reason, refused⟩)
        | cons => exact others split (by simp [first])

/-- `grep` with a pattern and a file hands on the arguments without the file. -/
theorem positional_dropLast (two : (positional arguments).length = 2) :
    ∃ pattern file, positional arguments = [pattern, file] ∧
      arguments.getLast? = some file ∧ positional arguments.dropLast = [pattern] ∧
      countText? arguments.dropLast = countText? arguments := by
  obtain ⟨pattern, file, both⟩ := List.length_eq_two.mp two
  refine ⟨pattern, file, both, ?_⟩
  cases counts : countText? arguments with
  | none =>
    rw [positional_of_none counts] at both
    subst both
    have same : countText? [pattern] = countText? [pattern, file] := rfl
    exact ⟨rfl, positional_of_none (same.trans counts), same.trans counts⟩
  | some text =>
    obtain ⟨rest, rfl⟩ := countText?_eq_some_iff.mp counts
    rw [positional_of_some counts, List.tail_cons] at both
    subst both
    have same : countText? [countLead ++ text, pattern] =
        countText? [countLead ++ text, pattern, file] := rfl
    exact ⟨rfl, positional_of_some (same.trans counts), same.trans counts⟩

theorem Misuse.dropLast (misuse : Misuse language 2 negated arguments)
    (two : (positional arguments).length = 2) :
    Misuse language 1 negated arguments.dropLast := by
  obtain ⟨pattern, file, both, -, one, counts⟩ := positional_dropLast two
  cases misuse with
  | size wrong => exact absurd two wrong
  | count counts' none => exact .count (counts.trans counts') none
  | negated counts' isNegated => exact .negated (counts.trans counts') isNegated
  | pattern first refused =>
    cases both.symm.trans first
    exact .pattern one refused

/-- `grep` looks at the number of its arguments, and then reads its file. -/
theorem grep_run (language : PatternLanguage) (negated : Bool) (arguments : List String)
    (s : Session) :
    ((positional arguments).length ≠ 2 ∧ ∃ message, (grep language negated arguments).run s =
      .error (.error (.usage message)) s) ∨
    ∃ file, (positional arguments).length = 2 ∧ arguments.getLast? = some file ∧
      (grep language negated arguments).run s =
        (textOfFile file >>= matchText language negated arguments.dropLast file
          "grep [-count=N] pattern file").run s := by
  cases arguments with
  | nil => exact .inl ⟨by decide, _, rfl⟩
  | cons first rest =>
    obtain ⟨file, last⟩ : ∃ file, (first :: rest).getLast? = some file :=
      ⟨_, List.getLast?_eq_some_getLast (List.cons_ne_nil first rest)⟩
    have size : (if (Text.dropLead? countLead.toList first.toList).isSome then
        (first :: rest).length - 1 else (first :: rest).length) =
        (positional (first :: rest)).length := by
      rw [positional, countText?, List.head?_cons, Option.bind_some, Option.isSome_map]
      split <;> rfl
    have ran : (grep language negated (first :: rest)).run s =
        (usage (decide ((positional (first :: rest)).length = 2))
            "grep [-count=N] pattern file" >>= fun _ =>
          textOfFile file >>= matchText language negated (first :: rest).dropLast file
            "grep [-count=N] pattern file").run s := by
      rw [grep, last, ← size]
      rfl
    rw [ran]
    by_cases two : (positional (first :: rest)).length = 2
    · rw [decide_eq_true two]
      exact .inr ⟨file, two, last, rfl⟩
    · rw [decide_eq_false two]
      exact .inl ⟨two, _, rfl⟩

/-- A file that cannot be read is a check that does not hold. -/
theorem textOfFile_eq_error {name : String} {e : CommandError}
    (unread : s.textOfFile name = .error e) : ∃ text, e = .failed text := by
  rw [Session.textOfFile] at unread
  split at unread
  · cases unread
  · split at unread
    · cases unread
    · split at unread
      · cases unread
      · cases unread
        exact ⟨_, rfl⟩

/-- A misuse is told as such, unless `grep` cannot read its file: that is a check that does not
hold. Neither changes the session. -/
theorem run_of_misuse {m : Matcher} (misuse : Misuse language m.size negated arguments)
    (s : Session) :
    (¬m.Unreadable arguments s ∧ ∃ text, (m.run language negated arguments).run s =
      .error (.error (.usage text)) s) ∨
    (m.Unreadable arguments s ∧ ∃ text, (m.run language negated arguments).run s =
      .error (.error (.failed text)) s) := by
  cases m with
  | stdout => exact .inl ⟨nofun, matchText_of_misuse misuse _ _ _ s⟩
  | stderr => exact .inl ⟨nofun, matchText_of_misuse misuse _ _ _ s⟩
  | grep =>
    simp only [Matcher.run]
    rcases grep_run language negated arguments s with
      ⟨wrong, refused⟩ | ⟨file, two, last, ran⟩
    · exact .inl ⟨fun unreadable => wrong unreadable.2.1, refused⟩
    · rw [ran]
      cases read : s.textOfFile file with
      | error e =>
        obtain ⟨text, rfl⟩ := textOfFile_eq_error read
        have stopped : (textOfFile file).run s = .error (.error (.failed text)) s := by
          rw [textOfFile, run_get_bind]
          simp only [read]
          rfl
        exact .inr ⟨⟨rfl, two, file, _, last, read⟩, text, run_bind_of_error stopped⟩
      | ok text =>
        have goesOn : (textOfFile file).run s = .ok text s := by
          rw [textOfFile, run_get_bind]
          simp only [read]
          rfl
        obtain ⟨message, refused⟩ := matchText_of_misuse (misuse.dropLast two) file
          "grep [-count=N] pattern file" text s
        refine .inl ⟨?_, message, (run_bind_of_ok goesOn).trans refused⟩
        rintro ⟨-, -, file', e, last', unread⟩
        cases last.symm.trans last'
        cases read.symm.trans unread

end Matching

namespace Engine

open Matching (Matcher Misuse)

variable {language : PatternLanguage} {params : RunParams} {e : Engine} {s : Session}
  {inst : Instruction} {call : Call}

/-- The run fails at an instruction, whatever comes before and after it. -/
def FailsRun (e : Engine) (inst : Instruction) (s : Session) : Prop :=
  ∃ err, ∀ before rest t, e.Passes before t s →
    (e.runInstructions (before ++ inst :: rest) t).1 = .fails (some inst.line) err

theorem Passes.append {before : List Instruction} {t : Session} (passes : e.Passes before t s)
    (insts : List Instruction) :
    e.runInstructions (before ++ insts) t = e.runInstructions insts s := by
  induction passes with
  | nil => rfl
  | cons goesOn _ ih =>
    rw [List.cons_append, Engine.runInstructions, goesOn]
    exact ih

/-- An instruction fails the run if and only if its step does. -/
theorem failsRun_iff : e.FailsRun inst s ↔ ∃ err, (e.step inst s).1 = .fails err := by
  constructor
  · rintro ⟨err, fails⟩
    have alone := fails [] [] s .nil
    by_cases goesOn : (e.step inst s).1 = .goesOn
    · rw [List.nil_append, runInstructions] at alone
      cases ended : e.step inst s with
      | mk ending t =>
        rw [ended] at alone goesOn
        cases goesOn
        cases alone
    · rw [List.nil_append, runInstructions_of_ends goesOn] at alone
      cases ended : (e.step inst s).1 with
      | fails err' => exact ⟨err', rfl⟩
      | goesOn => exact absurd ended goesOn
      | halts | panics | endless =>
        rw [ended] at alone
        cases alone
  · rintro ⟨err, fails⟩
    refine ⟨err, fun before rest t passes => ?_⟩
    have ends : (e.step inst s).1 ≠ .goesOn := by simp [fails]
    rw [passes.append, runInstructions_of_ends ends, fails]
    rfl

/-- A command that checks a text against a pattern and whose arguments are a misuse fails the run,
with any mark or none. The one exception is `grep` with a mark and with a file that cannot be
read. -/
theorem misuse_fails_iff (made : make language params = .ok e) {m : Matcher}
    (named : inst.name = m.name) (called : e.call? s inst = some call)
    (misuse : Misuse language m.size inst.expectation.isNegated call.arguments) :
    e.FailsRun inst s ↔
      ¬(m.Unreadable call.arguments call.session ∧ inst.expectation ≠ .success) := by
  have command : call.command = ⟨true, m.run language⟩ := by
    have known : e.registry.command? inst.name = some ⟨true, m.run language⟩ := by
      rw [named]
      cases m <;> exact command?_of_make made rfl
    exact Option.some.inj ((command_of_call called).symm.trans known)
  have judged : call.session.isDeferred = false := by
    obtain ⟨log, n, session⟩ := session_of_call called
    rw [session, calling]
  rw [failsRun_iff, step_of_call called, Call.answer, command]
  rcases Matching.run_of_misuse misuse call.session with
    ⟨readable, text, ran⟩ | ⟨unreadable, text, ran⟩
  · rw [ran]
    refine iff_of_true ⟨.command (.usage text), ?_⟩ fun exception => readable exception.1
    simp [endOf, judged, judgeError]
  · rw [ran]
    by_cases expected : inst.expectation = .success
    · refine iff_of_true ⟨.command (.failed text), ?_⟩ fun exception => exception.2 expected
      simp [endOf, judged, judgeError, expected]
    · refine iff_of_false ?_ fun never => never ⟨unreadable, expected⟩
      simp [endOf, judged, judgeError, expected]

/-! ### Misuses on a host without programs -/

/-- The call that the first instruction of a script comes to, with the instruction and the session
that it starts in. -/
def firstCall? (source : String) : Option (Session × Instruction × Call) :=
  (plainSession? false source).bind fun s => s.script.instructions.head?.bind fun inst =>
    ((plain false).call? s inst).map fun call => (s, inst, call)

theorem firstCall?_eq_some {source : String}
    (first : firstCall? source = some (s, inst, call)) :
    plainSession? false source = some s ∧ s.script.instructions.head? = some inst ∧
      (plain false).call? s inst = some call := by
  obtain ⟨s', session, rest⟩ := Option.bind_eq_some_iff.mp first
  obtain ⟨inst', head, rest⟩ := Option.bind_eq_some_iff.mp rest
  obtain ⟨call', called, same⟩ := Option.map_eq_some_iff.mp rest
  cases same
  exact ⟨session, head, called⟩

/-- What a misuse by the first instruction rests on. -/
def firstFacts (first : Session × Instruction × Call) :
    String × Expectation × List String × Bool :=
  (first.2.1.name, first.2.1.expectation, first.2.2.arguments,
    (first.2.2.session.textOfFile "missing").toOption.isSome)

theorem misuse_fails_iff_count :
    ∃ s inst, plainSession? false "! stdout -count=1 x\n" = some s ∧
      s.script.instructions.head? = some inst ∧ (plain false).FailsRun inst s := by
  have facts : (firstCall? "! stdout -count=1 x\n").map firstFacts =
      some ("stdout", .failure, ["-count=1", "x"], false) := by decide +kernel
  obtain ⟨⟨s, inst, call⟩, first, all⟩ := Option.map_eq_some_iff.mp facts
  simp only [firstFacts, Prod.mk.injEq] at all
  obtain ⟨named, expectation, arguments, -⟩ := all
  obtain ⟨session, head, called⟩ := firstCall?_eq_some first
  have misuse : Misuse noPatterns Matcher.stdout.size inst.expectation.isNegated
      call.arguments := by
    have counts : Matching.countText? ["-count=1", "x"] = some "1" := by decide +kernel
    rw [expectation, arguments]
    exact .negated counts rfl
  have made : make noPatterns (plainParams false) = .ok (plain false) := rfl
  exact ⟨s, inst, session, head,
    (misuse_fails_iff made named called misuse).mpr fun exception => nomatch exception.1.1⟩

/-- `grep` is asked for a pattern that is refused, and its file is missing: with a mark, the run
goes on. -/
theorem goesOn_of_misused_grep :
    ∃ s inst call, plainSession? false "! grep ( missing\n" = some s ∧
      s.script.instructions.head? = some inst ∧ inst.name = Matcher.grep.name ∧
      (plain false).call? s inst = some call ∧
      Misuse noPatterns Matcher.grep.size inst.expectation.isNegated call.arguments ∧
      ¬(plain false).FailsRun inst s ∧
      (plainResult? false "! grep ( missing\n").map ScriptResult.outcome = some .passed := by
  have facts : (firstCall? "! grep ( missing\n").map firstFacts =
      some ("grep", .failure, ["(", "missing"], false) := by decide +kernel
  have goesOn : (firstCall? "! grep ( missing\n").map
      (fun first => ((plain false).step first.2.1 first.1).1) = some .goesOn := by decide +kernel
  obtain ⟨⟨s, inst, call⟩, first, all⟩ := Option.map_eq_some_iff.mp facts
  simp only [firstFacts, Prod.mk.injEq] at all
  obtain ⟨named, expectation, arguments, -⟩ := all
  obtain ⟨session, head, called⟩ := firstCall?_eq_some first
  have misuse : Misuse noPatterns Matcher.grep.size inst.expectation.isNegated
      call.arguments := by
    have positional : Matching.positional ["(", "missing"] = "(" :: ["missing"] := by
      decide +kernel
    rw [arguments]
    exact .pattern positional rfl
  rw [first] at goesOn
  refine ⟨s, inst, call, session, head, named, called, misuse, fun fails => ?_, by decide +kernel⟩
  obtain ⟨err, failed⟩ := failsRun_iff.mp fails
  cases (Option.some.inj goesOn).symm.trans failed

end Engine
end ScriptSuite
