import ScriptSuite.Shell.Expansion

/-!
What a program of the shell does.

A program is turned into a behaviour. Each step of the shell takes one from a supply of
steps; a shell whose supply is used up does nothing more.
-/

namespace ScriptSuite.Shell

/-- The words for a file that cannot be opened. -/
def openFault (action : String) (name : String) (e : HostError) : String :=
  let reason :=
    match e, action with
    | .refused .noEntry, "create" => "Directory nonexistent"
    | .refused .noEntry, _ => "No such file"
    | e, _ => Tools.words e
  "cannot " ++ action ++ " " ++ name ++ ": " ++ reason

def withSink (st : State) (stream : Nat) (sink : Sink) : State :=
  if stream = 1 then { st with stdout := sink }
  else if stream = 2 then { st with stderr := sink }
  else st

/-- The sink of a stream by its number. -/
def sinkOf (st : State) (text : String) : Sink :=
  match text with
  | "1" => st.stdout
  | "2" => st.stderr
  | _ => .nowhere

def openOutput (st : State) (stream : Nat) (appends : Bool) (name : String)
    (next : Except String State → Behaviour) : Behaviour :=
  let opened (files : Node) : Except HostError (Node × Place) :=
    match files.placeFrom st.folder (Stray.locate name) with
    | .error e => .error e
    | .ok place =>
      match files.find? place with
      | some (.folder ..) => .error (.refused .isFolder)
      | found =>
        if appends && found.isSome then .ok (files, place)
        else
          match files.storeFrom st.folder (Stray.locate name) [] with
          | .ok files => .ok (files, place)
          | .error e => .error e
  .change (fun files =>
    match opened files with
    | .ok (files, _) => files
    | .error _ => files) fun files =>
      match opened files with
      | .ok (_, place) => next (.ok (withSink st stream (.file place)))
      | .error e => next (.error (openFault "create" name e))

def openInput (st : State) (name : String) (next : Except String State → Behaviour) :
    Behaviour :=
  .change id fun files =>
    match files.nodeFrom st.folder (Stray.locate name) with
    | .ok (.file content) => next (.ok { st with input := content.data })
    | .ok (.folder ..) => next (.ok { st with input := [] })
    | .error e => next (.error (openFault "open" name e))

/-- What a list of fields names, if it names one thing. -/
def soleText (bits : List Bit) : String := textOfBits bits

/-- The report on a test. -/
def testReport (line : Nat) (name : String) (arguments : List String) (st : State)
    (files : Node) : Report :=
  match Tools.testOf files st.folder arguments with
  | some holds => ⟨[], [], if holds then 0 else 1⟩
  | none => ⟨[], st.complaint line (name ++ ": " ++ Tools.testComplaint arguments), 2⟩

/-- The commands that are part of the shell and run no other commands. -/
def plainBuiltin? (line : Nat) (name : String) (arguments : List String) (st : State)
    (files : Node) : Option Report :=
  match name with
  | ":" | "true" | "wait" | "ulimit" | "hash" | "jobs" => some (.output [])
  | "umask" => some (if arguments.isEmpty then .text "0022\n" else .output [])
  | "false" => some ⟨[], [], 1⟩
  | "echo" => some (.output (Tools.echoEscaped arguments))
  | "printf" =>
    if arguments.isEmpty then
      some ⟨[], st.complaint line "printf: usage: printf format [arg ...]", 2⟩
    else some (Tools.printFormat arguments)
  | "pwd" => some (.text ((st.bindings.value? "PWD").getD "" ++ "\n"))
  | "test" => some (testReport line name arguments st files)
  | "[" =>
    if arguments.getLast? = some "]" then
      some (testReport line name arguments.dropLast st files)
    else some ⟨[], st.complaint line "[: missing ]", 2⟩
  | _ => none

/-- The text of a place. -/
def placeText (place : Place) : String :=
  String.ofList ('/' :: Text.joinWith ['/'] (place.map Stray.spell))

def changeFolder (line : Nat) (target : String) (st : State) (files : Node) : State × Bytes :=
  match files.nodeFrom st.folder (Stray.locate target),
      files.placeFrom st.folder (Stray.locate target) with
  | .ok (.folder ..), .ok place =>
    let old := (st.bindings.value? "PWD").getD ""
    let new := ((Path.mk old).join target).clean.text
    (({ st with folder := place, status := 0 }.setVariable "OLDPWD" old).setVariable "PWD" new, [])
  | _, _ => (st.ended 2, st.complaint line ("cd: can't cd to " ++ target))

/-- Sets variables and lets programs see them. -/
def exportAll (st : State) (arguments : List String) : State :=
  arguments.foldl (fun st argument =>
    match Variable.assignment? argument with
    | some (name, value) => (st.setVariable name value).shareVariable name
    | none => st.shareVariable argument) (st.ended 0)

/-- Sets the options and the arguments of the shell. -/
def setParameters (st : State) : List String → State
  | [] => st.ended 0
  | "--" :: rest => { st.ended 0 with parameters := rest }
  | a :: rest =>
    match a.toList with
    | '-' :: letters => setParameters { st with options := letters ++ st.options } rest
    | '+' :: letters =>
      setParameters { st with options := st.options.filter fun c => !letters.contains c } rest
    | _ => { st.ended 0 with parameters := a :: rest }

/-- Reads what a trap waits for. -/
def trapOf? (s : String) : Option Trap :=
  if s = "EXIT" || s = "0" then some .leaving else (signal? s).map .signal

def setTraps (st : State) : List String → State
  | action :: names =>
    names.foldl (fun st name =>
      match trapOf? name with
      | none => st.ended 1
      | some t =>
        let others := st.traps.filter fun entry => entry.1 != t
        { st with traps := if action = "-" then others else (t, action) :: others })
      (st.ended 0)
  | [] => st.ended 0

/-- The signal and the targets of `kill`. -/
def killTargets (arguments : List String) : Option Nat × List String :=
  match arguments with
  | "-s" :: name :: rest => (signal? name, rest)
  | first :: rest =>
    match Text.dropLead? ['-'] first.toList with
    | some name => (signal? (String.ofList name), rest)
    | none => (some Signal.terminate.number, arguments)
  | [] => (some Signal.terminate.number, [])

/-- Sends signals; the shell itself may be among the targets. -/
def sendSignals (arguments : List String) (st : State) (next : State → Behaviour) : Behaviour :=
  match killTargets arguments with
  | (none, targets) =>
    next (st.ended (if arguments.head? == some "-0" && !targets.isEmpty then 0 else 1))
  | (some signal, targets) =>
    if targets.contains (toString ownNumber) then
      match if signal = Signal.kill.number then .dies else st.reaction signal with
      | .dies => .abort signal
      | .ignores => next (st.ended 0)
      | .notes => next { st.ended 0 with pending := st.pending ++ [signal] }
    else next (st.ended 0)

/-- Sets variables to the words of a line of the input. -/
def readLine (names : List String) (st : State) : State :=
  let line := st.input.takeWhile (· != 10)
  let rest := st.input.drop line.length
  let words := (fieldsOf [.loose (Stray.charsOf line)]).map spotText
  let rec assign (st : State) (words : List String) : List String → State
    | [] => st
    | [name] => st.setVariable name (" ".intercalate words)
    | name :: more => assign (st.setVariable name (words.headD "")) words.tail more
  let st := assign { st with input := rest.tail } words names
  st.ended (if rest.isEmpty then 1 else 0)

/-- The tools that read their input to its end. -/
def readers : List String := ["cat", "head", "tail", "wc", "sort", "tee", "sh", "bash", "dash"]

/-- Runs a program that is not part of the shell. -/
def runProgram (line : Nat) (name : String) (arguments : List String) (environment : Environment)
    (st : State) (next : State → Behaviour) : Behaviour :=
  let refuse (r : Refusal) : Behaviour :=
    let (text, code) :=
      match r with
      | .noEntry | .notFolder => (name ++ ": not found", 127)
      | r => (name ++ ": " ++ r.words, 126)
    st.emit .stderr (st.complaint line text) fun st => next (st.ended code)
  .change id fun files =>
    let found :=
      match files.findImage st.folder environment name (name :: arguments) with
      | .error .badFormat => files.resolveImage st.folder name (name :: arguments) true
      | found => found
    match found with
    | .error r => refuse r
    | .ok (image, all) =>
      match st.load ⟨image, all, environment, st.folder, st.input⟩ with
      | .error r => refuse r
      | .ok behaviour =>
        State.within (fun code st =>
          next { st.ended code with
            input := if readers.contains name then [] else st.input }) behaviour st

mutual

/-- Finds the bits of a word. -/
def expandBits : (fuel : Nat) → ShellWord → State → (List Bit → State → Behaviour) → Behaviour
  | 0, _, _, _ => .idle
  | _ + 1, [], st, next => next [] st
  | fuel + 1, part :: rest, st, next =>
    let continued (bits : List Bit) (st : State) : Behaviour :=
      expandBits fuel rest st fun more st => next (bits ++ more) st
    match part with
    | .text isQuoted cs => continued [if isQuoted then .fixed cs else .signs cs] st
    | .parameter isQuoted name demand word =>
      match parameterValue st isQuoted name demand word with
      | .bits bits => continued bits st
      | .trimmed value atFront isLongest pattern =>
        expandBits fuel pattern st fun bits st =>
          let trim := if atFront then trimFront else trimBack
          continued [bitOf isQuoted (trim isLongest (patternOf bits) value)] st
      | .refused text =>
        st.emit .stderr (st.complaint 1 text) fun st =>
          next [] { st.ended 2 with flow := .leaving }
      | .standIn w assigns =>
        expandBits fuel w st fun bits st =>
          let text := textOfBits bits
          let st := if assigns then st.setVariable (String.ofList name) text else st
          continued [bitOf isQuoted text.toList] st
    | .substitution isQuoted source =>
      runSource fuel source { st with stdout := .kept, kept := [], traps := [] } fun inside =>
        let text := withoutFeeds (Stray.charsOf inside.kept)
        continued [bitOf isQuoted text]
          { st with
            inner := some inside.status
            input := inside.input
            pending := inside.pending }
    | .arithmetic isQuoted source =>
      expandBits fuel (quotedParts source) st fun bits st =>
        match Arithmetic.value? st.bindings (textOfBits bits).toList with
        | some n => continued [bitOf isQuoted (toString n).toList] st
        | none =>
          let text := "arithmetic expression: expecting primary: \"" ++ textOfBits bits ++ "\""
          st.emit .stderr (st.complaint 1 text) fun st =>
            next [] { st.ended 2 with flow := .leaving }

/-- Finds the fields of words, and the files that they match. -/
def expandFields : (fuel : Nat) → List ShellWord → State →
    (List String → State → Behaviour) → Behaviour
  | 0, _, _, _ => .idle
  | _ + 1, [], st, next => next [] st
  | fuel + 1, w :: rest, st, next =>
    expandBits fuel w st fun bits st =>
      let fields := if isAllParameters w && st.parameters.isEmpty then [] else fieldsOf bits
      let continued (found : List String) : Behaviour :=
        expandFields fuel rest st fun more st => next (found ++ more) st
      if fields.any hasSign then
        .change id fun files => continued (fields.flatMap (pathsOf files st.folder))
      else continued (fields.map spotText)

/-- Finds the first arm with a pattern that a text matches. -/
def findArm : (fuel : Nat) → List Char → List (List ShellWord × Statement) → State →
    (Statement → State → Behaviour) → Behaviour
  | 0, _, _, _, _ => .idle
  | _ + 1, _, [], st, next => next .nothing st
  | fuel + 1, subject, ([], _) :: arms, st, next => findArm fuel subject arms st next
  | fuel + 1, subject, (pattern :: patterns, body) :: arms, st, next =>
    expandBits fuel pattern st fun bits st =>
      if doMatch (patternOf bits) subject then next body st
      else findArm fuel subject ((patterns, body) :: arms) st next

/-- Finds the values of assignments. -/
def expandValues : (fuel : Nat) → List (String × ShellWord) → State →
    (List (String × String) → State → Behaviour) → Behaviour
  | 0, _, _, _ => .idle
  | _ + 1, [], st, next => next [] st
  | fuel + 1, (name, w) :: rest, st, next =>
    expandBits fuel w st fun bits st =>
      expandValues fuel rest (st.setVariable name (textOfBits bits)) fun more st =>
        next ((name, textOfBits bits) :: more) st

/-- Carries out redirections. -/
def redirect : (fuel : Nat) → List Redirection → State → (Except String State → Behaviour) →
    Behaviour
  | 0, _, _, _ => .idle
  | _ + 1, [], st, next => next (.ok st)
  | fuel + 1, r :: rest, st, next =>
    let continued (result : Except String State) : Behaviour :=
      match result with
      | .ok st => redirect fuel rest st next
      | .error text => next (.error text)
    match r with
    | .input w => expandBits fuel w st fun bits st => openInput st (soleText bits) continued
    | .output stream appends w =>
      expandBits fuel w st fun bits st => openOutput st stream appends (soleText bits) continued
    | .duplicate stream w =>
      expandBits fuel w st fun bits st =>
        continued (.ok (withSink st stream (sinkOf st (soleText bits))))

/-- Does something with redirections, and takes them back. -/
def redirected : (fuel : Nat) → (line : Nat) → List Redirection → State →
    (State → (State → Behaviour) → Behaviour) → (State → Behaviour) → Behaviour
  | 0, _, _, _, _, _ => .idle
  | fuel + 1, line, rs, st, body, next =>
    redirect fuel rs st fun result =>
      match result with
      | .error text =>
        st.emit .stderr (st.complaint line text) fun st => next (st.ended 2)
      | .ok inner =>
        let changesInput := rs.any fun r =>
          match r with
          | .input _ => true
          | _ => false
        body inner fun after =>
          next { after with
            stdout := st.stdout
            stderr := st.stderr
            input := if changesInput then st.input else after.input }

/-- Reads a program and runs it. -/
def runSource : (fuel : Nat) → List Char → State → (State → Behaviour) → Behaviour
  | 0, _, _, _ => .idle
  | fuel + 1, source, st, next =>
    match parse source with
    | .error e =>
      st.emit .stderr (st.complaint 1 e.message) fun st =>
        next { st.ended 2 with flow := .leaving }
    | .ok program => run fuel program st next

/-- Takes care of signals that have come. -/
def settle : (fuel : Nat) → State → (State → Behaviour) → Behaviour
  | 0, _, _ => .idle
  | fuel + 1, st, next =>
    match st.pending with
    | [] => next st
    | signal :: rest =>
      let st := { st with pending := rest }
      match st.trap? (.signal signal) with
      | some action =>
        let status := st.status
        runSource fuel action.toList st fun st =>
          settle fuel (if st.flow = .normal then st.ended status else st) next
      | none => settle fuel st next

/-- Runs a command by its name. -/
def runNamed : (fuel : Nat) → (line : Nat) → String → List String → State →
    (State → Behaviour) → Behaviour
  | 0, _, _, _, _, _ => .idle
  | fuel + 1, line, name, arguments, st, next =>
    let refuse (text : String) : Behaviour :=
      st.emit .stderr (st.complaint line (name ++ ": " ++ text)) fun st =>
        next { st.ended 2 with flow := .leaving }
    match name with
    | "exit" | "return" =>
      let flow := if name = "exit" then Flow.leaving else .returning
      match arguments with
      | [] => next { st with flow := flow }
      | a :: _ =>
        match Text.digits? a.toList with
        | some n => next { st.ended (n % 256) with flow := flow }
        | none => refuse ("Illegal number: " ++ a)
    | "break" | "continue" =>
      let n := (((arguments.head?.bind fun a => Text.digits? a.toList).getD 1) - 1)
      next { st.ended 0 with flow := if name = "break" then .breaking n else .continuing n }
    | "cd" =>
      .change id fun files =>
        let target := arguments.headD ((st.bindings.value? "HOME").getD "")
        let (st, complaint) := changeFolder line target st files
        st.emit .stderr complaint next
    | "export" | "readonly" | "local" => next (exportAll st arguments)
    | "unset" =>
      next { st.ended 0 with
        bindings := arguments.foldl (fun env name => env.remove name) st.bindings }
    | "set" => next (setParameters st arguments)
    | "shift" =>
      let n := (arguments.head?.bind fun a => Text.digits? a.toList).getD 1
      if st.parameters.length < n then refuse "can't shift that many"
      else next { st.ended 0 with parameters := st.parameters.drop n }
    | "trap" => next (setTraps st arguments)
    | "kill" => sendSignals arguments st next
    | "read" => next (readLine (arguments.filter fun a => a != "-r") st)
    | "eval" => runSource fuel (" ".intercalate arguments).toList (st.ended 0) next
    | "." =>
      let file := arguments.headD ""
      .change id fun files =>
        match files.nodeFrom st.folder (Stray.locate file) with
        | .ok (.file content) =>
          runSource fuel (Stray.charsOf content.data) (st.ended 0) fun st =>
            next (if st.flow = .returning then { st with flow := .normal } else st)
        | _ => refuse ("cannot open " ++ file ++ ": No such file")
    | "command" =>
      match arguments with
      | "-v" :: what :: _ =>
        .change id fun files =>
          let searched := Path.splitSearchList ((st.bindings.value? "PATH").getD "")
          match (plainBuiltin? line what [] st files), searched.find? fun dir =>
              (files.imageAt st.folder (dir.join what).text).isOk with
          | some _, _ => st.emit .stdout (Stray.bytesOf (what ++ "\n")) fun st => next (st.ended 0)
          | none, some dir =>
            st.emit .stdout (Stray.bytesOf ((dir.join what).text ++ "\n")) fun st =>
              next (st.ended 0)
          | none, none => next (st.ended 127)
      | name :: rest => runNamed fuel line name rest st next
      | [] => next (st.ended 0)
    | "exec" =>
      match arguments with
      | [] => next (st.ended 0)
      | name :: rest =>
        runProgram line name rest st.environment st fun st => next { st with flow := .leaving }
    | _ =>
      match List.lookup name st.functions with
      | some body =>
        run fuel body { st with parameters := arguments } fun after =>
          next { after with
            parameters := st.parameters
            flow := if after.flow = .returning then .normal else after.flow }
      | none =>
        .change id fun files =>
          match plainBuiltin? line name arguments st files with
          | some report => st.report report next
          | none => runProgram line name arguments st.environment st next

/-- Runs a command in a shell of its own. -/
def apart : (fuel : Nat) → Statement → State → (State → Behaviour) → Behaviour
  | 0, _, _, _ => .idle
  | fuel + 1, a, st, next =>
    run fuel a { st with traps := [] } fun inner =>
      next { st with
        status := inner.status
        input := inner.input
        kept := inner.kept
        pending := inner.pending }

/-- Runs a command for each value. -/
def runEach : (fuel : Nat) → String → List String → Statement → State → (State → Behaviour) →
    Behaviour
  | 0, _, _, _, _, _ => .idle
  | _ + 1, _, [], _, st, next => next st
  | fuel + 1, name, value :: rest, body, st, next =>
    run fuel body (st.setVariable name value) fun st =>
      match st.flow with
      | .normal | .continuing 0 => runEach fuel name rest body { st with flow := .normal } next
      | .breaking 0 => next { st with flow := .normal }
      | .breaking (n + 1) => next { st with flow := .breaking n }
      | .continuing (n + 1) => next { st with flow := .continuing n }
      | .leaving | .returning => next st

/-- Runs a command on whose status something depends. -/
def runTested : (fuel : Nat) → Statement → State → (State → Behaviour) → Behaviour
  | 0, _, _, _ => .idle
  | fuel + 1, a, st, next =>
    run fuel a { st with isTested := true } fun after =>
      next { after with isTested := st.isTested }

/-- Runs a command. -/
def run : (fuel : Nat) → Statement → State → (State → Behaviour) → Behaviour
  | 0, _, _, _ => .idle
  | fuel + 1, a, st, next =>
    if st.flow != .normal then next st
    else
      match a with
      | .nothing => next (st.ended 0)
      | .simple line assigned words rs =>
        let before := st.bindings
        expandFields fuel words { st with inner := none } fun fields st =>
          expandValues fuel assigned st fun values st =>
            if st.flow != .normal then next st
            else
              st.trace values fields fun st =>
                match fields with
                | [] =>
                  redirected fuel line rs (st.ended (st.inner.getD 0)) (fun st next => next st)
                    fun st => settle fuel st.checked next
                | ["exec"] =>
                  redirect fuel rs st fun result =>
                    match result with
                    | .ok st => next (st.ended 0)
                    | .error text =>
                      st.emit .stderr (st.complaint line text) fun st =>
                        next { st.ended 2 with flow := .leaving }
                | name :: arguments =>
                  let st := values.foldl (fun st entry => st.shareVariable entry.1) st
                  redirected fuel line rs st (runNamed fuel line name arguments) fun st =>
                    let st :=
                      if values.isEmpty then st
                      else
                        { st with
                          bindings := values.foldl (fun env entry =>
                            match before.value? entry.1 with
                            | some old => env.put entry.1 old
                            | none => env.remove entry.1) st.bindings }
                    settle fuel st.checked next
      | .sequence a b => run fuel a st fun st => run fuel b st next
      | .both a b =>
        runTested fuel a st fun st => if st.status = 0 then run fuel b st next else next st
      | .either a b =>
        runTested fuel a st fun st => if st.status = 0 then next st else run fuel b st next
      | .negated a =>
        runTested fuel a st fun st =>
          next (if st.flow = .normal then st.ended (if st.status = 0 then 1 else 0) else st)
      | .pipe a b =>
        apart fuel a { st with stdout := .kept, kept := [] } fun inside =>
          apart fuel b { st with input := inside.kept, pending := inside.pending } fun after =>
            next { after with input := st.input }.checked
      | .background a =>
        .fork (run fuel a { st with input := [], traps := [] } fun st => .exit st.status)
          (next (st.ended 0))
      | .subshell a => apart fuel a st fun st => next st.checked
      | .redirected a rs => redirected fuel 1 rs st (run fuel a) next
      | .branch condition yes no =>
        runTested fuel condition st fun st =>
          if st.status = 0 then run fuel yes st next else run fuel no st next
      | .loop isUntil condition body =>
        runTested fuel condition st fun st =>
          if st.flow != .normal then next st
          else if (st.status = 0) = isUntil then next (st.ended 0)
          else
            run fuel body st fun st =>
              match st.flow with
              | .normal | .continuing 0 =>
                run fuel (.loop isUntil condition body) { st with flow := .normal } next
              | .breaking 0 => next { st with flow := .normal }
              | .breaking (n + 1) => next { st with flow := .breaking n }
              | .continuing (n + 1) => next { st with flow := .continuing n }
              | .leaving | .returning => next st
      | .each name words body =>
        expandFields fuel words st fun fields st =>
          runEach fuel name fields body (st.ended 0) next
      | .choice subject arms =>
        expandBits fuel subject st fun bits st =>
          findArm fuel (textOfBits bits).toList arms st fun body st => run fuel body st next
      | .definition name body =>
        next { st.ended 0 with functions := (name, body) :: st.functions }

end

/-- How many steps a shell may take. -/
def supply : Nat := 1000000

/-- Ends a shell, after what is to be done when it is left. -/
def leave (fuel : Nat) (st : State) : Behaviour :=
  match st.trap? .leaving with
  | some action =>
    let status := st.status
    runSource fuel action.toList { st with flow := .normal, traps := [] } fun after =>
      .exit (if after.flow = .normal then status else after.status)
  | none => .exit st.status

/-- Runs a program to its end. -/
def runProgramText (source : List Char) (st : State) : Behaviour :=
  runSource supply source st (leave supply)

/-- The state that a shell starts in. -/
def startState (load : Invocation → Except Refusal Behaviour) (i : Invocation) (name : String)
    (parameters : List String) : State where
  load := load
  bindings := i.environment.put "PWD" (placeText i.folder)
  exported := i.environment.map Prod.fst
  name := name
  parameters := parameters
  status := 0
  inner := none
  options := []
  isTested := false
  functions := []
  folder := i.folder
  input := i.stdin
  stdout := .stream .stdout
  stderr := .stream .stderr
  kept := []
  traps := []
  pending := []
  flow := .normal

/-- The letters of the options in front of arguments, and the rest. -/
def splitLetters : List String → List Char × List String
  | [] => ([], [])
  | a :: rest =>
    match a.toList with
    | '-' :: c :: letters =>
      if c = '-' then ([], rest)
      else
        let (more, rest) := splitLetters rest
        (c :: letters ++ more, rest)
    | _ => ([], a :: rest)

/-- The shell: runs the text after `-c`, a file, or its input. -/
def program (load : Invocation → Except Refusal Behaviour) : Program := fun i =>
  let own := i.arguments.headD "sh"
  let (letters, rest) := splitLetters i.rest
  let start (name : String) (parameters : List String) : State :=
    { startState load i name parameters with options := letters.filter (· != 'c') }
  match letters.contains 'c', rest with
  | true, source :: more => runProgramText source.toList (start (more.headD own) more.tail)
  | true, [] => (Report.complaint (own ++ ": 0: -c requires an argument\n") 2).behaviour
  | false, file :: parameters =>
    .change id fun files =>
      match files.nodeFrom i.folder (Stray.locate file) with
      | .ok (.file content) =>
        runProgramText (Stray.charsOf content.data) (start file parameters)
      | _ =>
        (Report.complaint (own ++ ": 0: cannot open " ++ file ++ ": No such file\n") 2).behaviour
  | false, [] => runProgramText (Stray.charsOf i.stdin) { start own [] with input := [] }

end ScriptSuite.Shell
