import ScriptSuite.Proofs.Script.Instruction
import ScriptSuite.Proofs.Suite.Judging

/-!
How quoted arguments reach a program.

An `exec` with its arguments in quotes is read as an instruction whose arguments are the texts
between the quotes (`call?_execWritten`). By then the quotes are gone, so that a last argument
that is spelled like the mark of a job is taken for one (`splitMark_of_marks`). A program that the
runner stands in for is launched in the foreground and gets all arguments if and only if the
last one is not spelled so (`exec_dispatches_iff`).
-/

namespace ScriptSuite

open Handler Session

namespace Word

/-- The ways to write an argument so that no variable takes part in it: as it is, if it has no
blanks, quotes or dollar signs, or in single quotes. -/
inductive Spells (text : String) : List Char → Prop where
  | bare (ne : text.toList ≠ []) (plain : ∀ c ∈ text.toList, IsPlain c)
      (noDollar : '$' ∉ text.toList) : Spells text text.toList
  | single (unquoted : '\'' ∉ text.toList) (noFeed : '\n' ∉ text.toList) :
      Spells text (Quote.single.written text.toList)

theorem escape_eq_self {cs : List Char} (noDollar : '$' ∉ cs) : Variable.escape cs = cs := by
  induction cs with
  | nil => rfl
  | cons c cs ih =>
    obtain ⟨different, noDollar⟩ := not_or.mp (List.mem_cons.not.mp noDollar)
    rw [Variable.escape] at ih
    rw [Variable.escape, List.flatMap_cons, ih noDollar, Variable.escapeChar,
      if_neg (Ne.symm different), List.singleton_append]

theorem Spells.writes {text : String} {cs : List Char} (spells : Spells text cs) :
    ∃ q, Writes cs (ofQuoted q (Quote.inner q text.toList)) := by
  cases spells with
  | bare ne plain noDollar =>
    refine ⟨.double, ?_⟩
    rw [Quote.inner, escape_eq_self noDollar]
    exact writes_bare ne plain
  | single unquoted noFeed => exact ⟨.single, writes_written unquoted noFeed⟩

end Word

namespace Programs

/-- How the mark of a job is spelled that has the name, or none. -/
inductive Marks : String → Option String → Prop where
  | unnamed : Marks "&" none
  | named {name : String} (ne : name ≠ "") : Marks ("&" ++ name ++ "&") (some name)

/-- An argument is a mark if and only if it is spelled as one; where it came from does not
matter. -/
theorem jobMark?_eq_some_iff {argument : String} {ground : Ground} :
    jobMark? argument = some ground ↔
      ∃ name, ground = .background name ∧ Marks argument name := by
  constructor
  · intro found
    rw [jobMark?] at found
    split at found
    · next c single =>
      split at found
      · next amp =>
        cases found
        have text : argument = "&" := String.toList_injective (single.trans (amp ▸ rfl))
        exact ⟨none, rfl, text ▸ .unnamed⟩
      · cases found
    · next c d rest long =>
      split at found
      · next amps =>
        cases found
        simp only [Bool.and_eq_true, decide_eq_true_eq, beq_iff_eq, Bool.not_eq_true',
          List.isEmpty_eq_false_iff] at amps
        obtain ⟨⟨amp, last⟩, more⟩ := amps
        obtain ⟨front, eq⟩ := List.getLast?_eq_some_iff.mp last
        refine ⟨_, rfl, ?_⟩
        have ne : front ≠ [] := by
          rintro rfl
          exact more (List.cons.inj eq).2
        have text : argument = "&" ++ String.ofList front ++ "&" := by
          refine String.toList_injective (long.trans ?_)
          rw [amp, eq]
          simp [jobMark]
        rw [eq, List.dropLast_concat, text]
        exact .named fun empty => ne (by simpa using congrArg String.toList empty)
      · cases found
    · cases found
  · rintro ⟨name, rfl, unnamed | ⟨ne⟩⟩
    · rfl
    · next text =>
      obtain ⟨c, cs, chars⟩ := List.exists_cons_of_ne_nil
        (fun empty => ne (String.toList_injective empty) : text.toList ≠ [])
      have spelled : ("&" ++ text ++ "&").toList = '&' :: c :: (cs ++ ['&']) := by simp [chars]
      have inside : (c :: (cs ++ ['&'])).dropLast = c :: cs := by
        rw [← List.cons_append, List.dropLast_concat]
      have last : (c :: (cs ++ ['&'])).getLast? = some '&' := by
        rw [← List.cons_append, List.getLast?_concat]
      have ends : (decide ('&' = jobMark) && (c :: (cs ++ ['&'])).getLast? == some jobMark &&
          !(cs ++ ['&']).isEmpty) = true := by
        simp [last, jobMark]
      rw [jobMark?, spelled]
      simp only [if_pos ends, inside, ← chars, String.ofList_toList]

section

variable {arguments : List String} (ne : arguments ≠ [])

include ne

theorem splitMark_of_marks {name : Option String} (marks : Marks (arguments.getLast ne) name) :
    splitMark arguments = (arguments.dropLast, .background name) := by
  rw [splitMark, List.getLast?_eq_some_getLast ne, Option.bind_some,
    jobMark?_eq_some_iff.mpr ⟨name, rfl, marks⟩]

theorem splitMark_of_unmarked (unmarked : ∀ name, ¬ Marks (arguments.getLast ne) name) :
    splitMark arguments = (arguments, .foreground) := by
  have none : jobMark? (arguments.getLast ne) = none := by
    refine Option.eq_none_iff_forall_ne_some.mpr fun ground found => ?_
    obtain ⟨name, -, marks⟩ := jobMark?_eq_some_iff.mp found
    exact unmarked name marks
  rw [splitMark, List.getLast?_eq_some_getLast ne, Option.bind_some, none]

end

end Programs

namespace Engine

section

variable {e : Engine} {s : Session} {inst : Instruction}

/-- The instruction makes `exec` launch a program, on the ground. -/
def Launches (e : Engine) (inst : Instruction) (s : Session) (l : Launch)
    (ground : Programs.Ground) : Prop :=
  ∃ call line, e.call? s inst = some call ∧ call.command.run = Programs.exec ∧
    Programs.splitMark call.arguments = (line, ground) ∧ line ≠ [] ∧
    l = Programs.launchOf call.session line

/-- An instruction launches one program at most. -/
theorem Launches.unique {l l' : Launch} {ground ground' : Programs.Ground}
    (launches : e.Launches inst s l ground) (launches' : e.Launches inst s l' ground') :
    l = l' ∧ ground = ground' := by
  obtain ⟨call, line, called, -, split, -, rfl⟩ := launches
  obtain ⟨call', line', called', -, split', -, rfl⟩ := launches'
  cases called.symm.trans called'
  cases split.symm.trans split'
  exact ⟨rfl, rfl⟩

/-- The line of an `exec` with its arguments in single quotes. -/
def execWritten (subject : List Char) (texts : List String) : List Char :=
  Instruction.written [] .success "exec".toList
    (subject :: texts.map fun text => Word.Quote.single.written text.toList)

/-- An `exec` with its arguments in single quotes calls the handler with the texts between the
quotes, and in the session as it is. -/
theorem call?_execWritten {language : PatternLanguage} {params : RunParams}
    (made : make language params = .ok e) {program : String} {subject : List Char}
    {texts : List String} (inTime : (isOverdue s).1 = false)
    (spells : Word.Spells program subject)
    (clean : ∀ text ∈ texts, '\n' ∉ text.toList ∧ '\'' ∉ text.toList) (ending : Text.Ending) :
    ∃ script inst, Script.parse (String.ofList (execWritten subject texts ++ ending.chars)) =
        .ok script ∧ script.instructions = [inst] ∧ inst.expectation = .success ∧
      e.call? s inst = some ⟨⟨true, Programs.exec⟩, program :: texts,
        calling (announced (isOverdue s).2 inst) inst⟩ := by
  obtain ⟨q, writes⟩ := spells.writes
  have arguments : List.Forall₂ Word.Writes
      (subject :: texts.map fun text => Word.Quote.single.written text.toList)
      (((q, program) :: texts.map fun text => (Word.Quote.single, text)).map
        fun a => Word.ofQuoted a.1 (a.1.inner a.2.toList)) := by
    have cleanQuoted : ∀ a ∈ texts.map fun text => (Word.Quote.single, text),
        '\n' ∉ a.2.toList ∧ a.1.mark ∉ a.2.toList := by
      intro a mem
      obtain ⟨text, there, rfl⟩ := List.mem_map.mp mem
      exact clean text there
    have quoted := Word.forall₂_writes cleanQuoted
    rw [List.map_map] at quoted
    exact .cons writes quoted
  have isName : Instruction.IsName "exec".toList := by decide
  have found : e.registry.command? "exec" = some ⟨true, Programs.exec⟩ := command?_of_make made rfl
  refine ⟨_, _, Instruction.parse_written .success (fun _ mem => absurd mem List.not_mem_nil) isName
    arguments ending, rfl, rfl, ?_⟩
  refine call?_eq_some_iff.mpr ⟨(isOverdue s).2, _, Prod.ext inTime rfl, rfl, found, .inl rfl,
    ?_, rfl⟩
  rw [Session.run_expandAll_quoted]
  exact Prod.ext (by simp [Function.comp_def]) rfl

/-- A program that the session stands in for is told its name and the arguments after it. -/
theorem dispatch?_launchOf {program : String} {texts : List String}
    (registered : s.programs.contains program = true) :
    StandIn.dispatch? (Programs.launchOf s (program :: texts)).arguments =
      some (program, texts) := by
  rw [Programs.launchOf, Programs.commandLine, List.headD_cons, if_pos registered]
  exact StandIn.dispatch?_commandLine _ _ _

/-- A program that the session stands in for, with its arguments in single quotes, is launched in
the foreground and gets exactly those arguments if and only if the last one is not spelled like
the mark of a job; the output of the launch is then that of the instruction. If it is spelled so,
the program is launched in the background without it. -/
theorem exec_dispatches_iff {language : PatternLanguage} {params : RunParams}
    (made : make language params = .ok e) {program : String} {subject : List Char}
    {texts : List String} (registered : s.programs.contains program = true)
    (inTime : (isOverdue s).1 = false) (spells : Word.Spells program subject)
    (clean : ∀ text ∈ texts, '\n' ∉ text.toList ∧ '\'' ∉ text.toList) (ending : Text.Ending) :
    ∃ script inst, Script.parse (String.ofList (execWritten subject texts ++ ending.chars)) =
        .ok script ∧ script.instructions = [inst] ∧
      ((∃ l, e.Launches inst s l .foreground ∧
          StandIn.dispatch? l.arguments = some (program, texts)) ↔
        ∀ name, ¬ Programs.Marks ((program :: texts).getLast (List.cons_ne_nil _ _)) name) ∧
      (∀ l output h, e.Launches inst s l .foreground →
        (isOverdue s).2.host.runForeground l s.deadline = (.ok output, h) →
        e.RunsForeground inst s output) ∧
      ∀ name, Programs.Marks ((program :: texts).getLast (List.cons_ne_nil _ _)) name →
        texts ≠ [] → ∃ l, e.Launches inst s l (.background name) ∧
          StandIn.dispatch? l.arguments = some (program, texts.dropLast) := by
  obtain ⟨script, inst, reads, one, -, called⟩ := call?_execWritten made inTime spells clean ending
  have known :
      (calling (announced (isOverdue s).2 inst) inst).programs.contains program = true := by
    rw [isOverdue_host]
    exact registered
  refine ⟨script, inst, reads, one, ⟨?_, ?_⟩, ?_, ?_⟩
  · rintro ⟨l, ⟨call, line, called', -, split, -, -⟩, -⟩ name marks
    cases called.symm.trans called'
    cases split.symm.trans (Programs.splitMark_of_marks _ marks)
  · intro unmarked
    exact ⟨_, ⟨_, _, called, rfl, Programs.splitMark_of_unmarked _ unmarked, List.cons_ne_nil _ _,
      rfl⟩, dispatch?_launchOf known⟩
  · rintro l output h ⟨call, line, called', isExec, split, ne, rfl⟩ ran
    cases called.symm.trans called'
    refine ⟨_, line, h, called, isExec, split, ne, ?_⟩
    rw [isOverdue_host] at ran ⊢
    exact ran
  · intro name marks more
    have front : (program :: texts).dropLast = program :: texts.dropLast :=
      List.dropLast_cons_of_ne_nil more
    exact ⟨_, ⟨_, _, called, rfl, Programs.splitMark_of_marks _ marks,
      front ▸ List.cons_ne_nil _ _, rfl⟩, front ▸ dispatch?_launchOf known⟩

/-! ### A program with quoted arguments -/

/-- A session that stands in for a program. -/
def standingSession : Session :=
  { Session.ofFiles oneProgram with programs := ["p"] }

theorem spells_p : Word.Spells "p" ['p'] := by
  have plain : ∀ c ∈ "p".toList, Word.IsPlain c := by
    rintro c mem
    cases List.mem_singleton.mp mem
    exact ⟨by decide, by decide⟩
  exact .bare (by decide) plain (by decide)

theorem exec_dispatches_iff_literal :
    ∃ script inst l, Script.parse "exec p 'a b' '$x' 'c&'\n" = .ok script ∧
      script.instructions = [inst] ∧ (plain false).Launches inst standingSession l .foreground ∧
      StandIn.dispatch? l.arguments = some ("p", ["a b", "$x", "c&"]) := by
  have made : make noPatterns (plainParams false) = .ok (plain false) := rfl
  have clean : ∀ text ∈ ["a b", "$x", "c&"], '\n' ∉ text.toList ∧ '\'' ∉ text.toList := by decide
  obtain ⟨script, inst, reads, one, launched, -⟩ :=
    exec_dispatches_iff (s := standingSession) made rfl rfl spells_p clean .lineFeed
  have unmarked : ∀ name, ¬ Programs.Marks "c&" name := by
    intro name marks
    have mark := Programs.jobMark?_eq_some_iff.mpr ⟨name, rfl, marks⟩
    cases (rfl : Programs.jobMark? "c&" = none).symm.trans mark
  obtain ⟨l, launches, dispatched⟩ := launched.mpr unmarked
  exact ⟨script, inst, l, reads, one, launches, dispatched⟩

/-- The quotes do not keep the last argument from being taken for the mark of a job. -/
theorem exec_takes_quotedMark :
    ∃ script inst l, Script.parse "exec p 'a' '&'\n" = .ok script ∧
      script.instructions = [inst] ∧
      (plain false).Launches inst standingSession l (.background none) ∧
      StandIn.dispatch? l.arguments = some ("p", ["a"]) ∧
      ¬ ∃ l, (plain false).Launches inst standingSession l .foreground ∧
        StandIn.dispatch? l.arguments = some ("p", ["a", "&"]) := by
  have made : make noPatterns (plainParams false) = .ok (plain false) := rfl
  have clean : ∀ text ∈ ["a", "&"], '\n' ∉ text.toList ∧ '\'' ∉ text.toList := by decide
  obtain ⟨script, inst, reads, one, -, called⟩ :=
    call?_execWritten (s := standingSession) made rfl spells_p clean .lineFeed
  have split : Programs.splitMark ["p", "a", "&"] = (["p", "a"], .background none) := rfl
  have launches : (plain false).Launches inst standingSession _ (.background none) :=
    ⟨_, _, called, rfl, split, List.cons_ne_nil _ _, rfl⟩
  refine ⟨script, inst, _, reads, one, launches, dispatch?_launchOf rfl, ?_⟩
  rintro ⟨l, launched, -⟩
  cases (launches.unique launched).2

end

end Engine

end ScriptSuite
