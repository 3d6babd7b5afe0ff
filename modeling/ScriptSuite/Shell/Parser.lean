import ScriptSuite.Shell.Lexer

/-!
Reading programs of the shell.
-/

namespace ScriptSuite.Shell

/-- The text of a word that is not quoted, if it is one. -/
def plainText? : ShellWord → Option (List Char)
  | [] => some []
  | .text false cs :: rest => (plainText? rest).map (cs ++ ·)
  | _ => none

/-- Whether the tokens start with that reserved word. -/
def startsWith (name : String) : List Token → Bool
  | .word parts _ :: _ => plainText? parts == some name.toList
  | _ => false

/-- Drops line ends and blank lines. -/
def dropFeeds : List Token → List Token
  | .operator ['\n'] :: rest => dropFeeds rest
  | ts => ts

/-- The fault of a token that is not expected. -/
def unexpected : List Token → SyntaxFault
  | [] => .unexpected "end of file"
  | .operator ['\n'] :: _ => .unexpected "newline"
  | .operator op :: _ => .unexpected ("\"" ++ String.ofList op ++ "\"")
  | .word parts _ :: _ =>
    match plainText? parts with
    | some cs => .unexpected ("\"" ++ String.ofList cs ++ "\"")
    | none => .unexpected "word"
  | .redirect .. :: _ => .unexpected "redirection"

/-- The fault of a token that is not the expected one. -/
def expecting (wanted : String) (ts : List Token) : SyntaxFault :=
  match unexpected ts with
  | .unexpected what => .expected wanted what
  | fault => fault

/-- Takes a reserved word. -/
def takeWord (name : String) (ts : List Token) : Except SyntaxFault (List Token) :=
  if startsWith name ts then .ok ts.tail else .error (expecting name ts)

/-- The words that end a list of commands. -/
def closers : List String := ["then", "else", "elif", "fi", "do", "done", "esac", "\x7d"]

/-- Whether the tokens start with something that ends a list of commands. -/
def isClosed (ts : List Token) : Bool :=
  match ts with
  | [] => true
  | .operator [')'] :: _ => true
  | .operator [';', ';'] :: _ => true
  | _ => closers.any fun name => startsWith name ts

/-- The name and the value that a word assigns. -/
def assignment? (parts : ShellWord) : Option (String × ShellWord) :=
  let rec collect (seen : List Char) : ShellWord → Option (String × ShellWord)
    | .text false cs :: rest =>
      match cs with
      | ['='] => if isName seen then some (String.ofList seen, rest) else none
      | _ => if cs.all isNameChar then collect (seen ++ cs) rest else none
    | _ => none
  collect [] parts

/-- The redirection that a mark and a word make. -/
def redirectionOf (stream : Nat) (mark : List Char) (w : ShellWord) : Redirection :=
  match mark with
  | ['<'] => .input w
  | ['>', '>'] => .output stream true w
  | ['>', '&'] | ['<', '&'] => .duplicate stream w
  | _ => .output stream false w

/-- Reads the words and redirections of a simple command. -/
def readSimple : (line : Nat) → List (String × ShellWord) → List ShellWord →
    List Redirection → List Token → Except SyntaxFault (Statement × List Token)
  | line, assigned, words, rs, .word parts l :: rest =>
    let line := if line = 0 then l else line
    match if words.isEmpty then assignment? parts else none with
    | some a => readSimple line (assigned ++ [a]) words rs rest
    | none => readSimple line assigned (words ++ [parts]) rs rest
  | line, assigned, words, rs, .redirect stream mark :: .word parts _ :: rest =>
    readSimple line assigned words (rs ++ [redirectionOf stream mark parts]) rest
  | _, _, _, _, .redirect _ _ :: rest => .error (unexpected rest)
  | line, assigned, words, rs, ts =>
    if assigned.isEmpty && words.isEmpty && rs.isEmpty then .error (unexpected ts)
    else .ok (.simple (max 1 line) assigned words rs, ts)

/-- Reads redirections. -/
def readRedirections : List Token → List Redirection × List Token
  | .redirect stream mark :: .word parts _ :: rest =>
    let (rs, rest) := readRedirections rest
    (redirectionOf stream mark parts :: rs, rest)
  | ts => ([], ts)

/-- Reads the words of a list of values. -/
def readValues : List Token → List ShellWord × List Token
  | .word parts _ :: rest =>
    let (ws, rest) := readValues rest
    (parts :: ws, rest)
  | ts => ([], ts)

/-- Reads the patterns of an arm, which may be bracketed, to the bracket after them. -/
def readPatterns : List Token → Except SyntaxFault (List ShellWord × List Token)
  | .word parts _ :: .operator ['|'] :: rest =>
    (readPatterns rest).map fun (patterns, rest) => (parts :: patterns, rest)
  | .word parts _ :: .operator [')'] :: rest => .ok ([parts], rest)
  | .word _ _ :: rest => .error (unexpected rest)
  | ts => .error (unexpected ts)

/-- The name and the tokens after the brackets of a definition. -/
def definition? : List Token → Option (String × List Token)
  | .word parts _ :: .operator ['('] :: .operator [')'] :: rest =>
    (plainText? parts).bind fun name =>
      if isName name then some (String.ofList name, dropFeeds rest) else none
  | _ => none

/-- Two commands one after another. -/
def joined (a b : Statement) : Statement :=
  match b with
  | .nothing => a
  | _ => .sequence a b

mutual

/-- Reads a list of commands. -/
def readList : (fuel : Nat) → List Token → Except SyntaxFault (Statement × List Token)
  | 0, ts => .error (unexpected ts)
  | fuel + 1, ts =>
    let ts := dropFeeds ts
    if isClosed ts then .ok (.nothing, ts)
    else
      match readChain fuel ts with
      | .error e => .error e
      | .ok (first, rest) =>
        let continued (first : Statement) (rest : List Token) :=
          (readList fuel rest).map fun (more, rest) => (joined first more, rest)
        match rest with
        | .operator [';'] :: rest => continued first rest
        | .operator ['\n'] :: rest => continued first rest
        | .operator ['&'] :: rest => continued (.background first) rest
        | _ => if isClosed rest then .ok (first, rest) else .error (unexpected rest)

/-- Reads pipelines that depend on one another. -/
def readChain : (fuel : Nat) → List Token → Except SyntaxFault (Statement × List Token)
  | 0, ts => .error (unexpected ts)
  | fuel + 1, ts =>
    match readPipe fuel ts with
    | .error e => .error e
    | .ok (first, rest) => readLinks fuel first rest

/-- Reads what depends on a pipeline. -/
def readLinks : (fuel : Nat) → Statement → List Token →
    Except SyntaxFault (Statement × List Token)
  | 0, _, ts => .error (unexpected ts)
  | fuel + 1, first, ts =>
    match ts with
    | .operator ['&', '&'] :: rest =>
      match readPipe fuel (dropFeeds rest) with
      | .ok (second, rest) => readLinks fuel (.both first second) rest
      | .error e => .error e
    | .operator ['|', '|'] :: rest =>
      match readPipe fuel (dropFeeds rest) with
      | .ok (second, rest) => readLinks fuel (.either first second) rest
      | .error e => .error e
    | _ => .ok (first, ts)

def readPipe : (fuel : Nat) → List Token → Except SyntaxFault (Statement × List Token)
  | 0, ts => .error (unexpected ts)
  | fuel + 1, ts =>
    if startsWith "!" ts then
      (readPipe fuel ts.tail).map fun (a, rest) => (.negated a, rest)
    else
      match readCommand fuel ts with
      | .error e => .error e
      | .ok (first, rest) =>
        match rest with
        | .operator ['|'] :: rest =>
          (readPipe fuel (dropFeeds rest)).map fun (second, rest) => (.pipe first second, rest)
        | _ => .ok (first, rest)

/-- Reads what follows the condition of a branch. -/
def readBranch : (fuel : Nat) → List Token → Except SyntaxFault (Statement × List Token)
  | 0, ts => .error (unexpected ts)
  | fuel + 1, ts => do
    let (condition, rest) ← readList fuel ts
    let rest ← takeWord "then" rest
    let (yes, rest) ← readList fuel rest
    if startsWith "elif" rest then
      let (no, rest) ← readBranch fuel rest.tail
      .ok (.branch condition yes no, rest)
    else if startsWith "else" rest then
      let (no, rest) ← readList fuel rest.tail
      let rest ← takeWord "fi" rest
      .ok (.branch condition yes no, rest)
    else
      let rest ← takeWord "fi" rest
      .ok (.branch condition yes .nothing, rest)

def readBody : (fuel : Nat) → List Token → Except SyntaxFault (Statement × List Token)
  | 0, ts => .error (unexpected ts)
  | fuel + 1, ts => do
    let rest ← takeWord "do" ts
    let (body, rest) ← readList fuel rest
    let rest ← takeWord "done" rest
    .ok (body, rest)

/-- Reads the arms of a choice. -/
def readArms : (fuel : Nat) → List Token →
    Except SyntaxFault (List (List ShellWord × Statement) × List Token)
  | 0, ts => .error (unexpected ts)
  | fuel + 1, ts =>
    let ts := dropFeeds ts
    if startsWith "esac" ts then .ok ([], ts.tail)
    else do
      let ts := if ts.head? = some (.operator ['(']) then ts.tail else ts
      let (patterns, rest) ← readPatterns ts
      let (body, rest) ← readList fuel rest
      match rest with
      | .operator [';', ';'] :: rest =>
        let (arms, rest) ← readArms fuel rest
        .ok ((patterns, body) :: arms, rest)
      | rest =>
        let rest ← takeWord "esac" rest
        .ok ([(patterns, body)], rest)

def readCommand : (fuel : Nat) → List Token → Except SyntaxFault (Statement × List Token)
  | 0, ts => .error (unexpected ts)
  | fuel + 1, ts =>
    let withRedirections (result : Except SyntaxFault (Statement × List Token)) :=
      result.map fun (a, rest) =>
        match readRedirections rest with
        | ([], rest) => (a, rest)
        | (rs, rest) => (.redirected a rs, rest)
    match ts with
    | .operator ['('] :: rest =>
      withRedirections do
        let (body, rest) ← readList fuel rest
        match rest with
        | .operator [')'] :: rest => .ok (.subshell body, rest)
        | _ => .error (expecting ")" rest)
    | _ =>
      if startsWith "\x7b" ts then
        withRedirections do
          let (body, rest) ← readList fuel ts.tail
          let rest ← takeWord "\x7d" rest
          .ok (body, rest)
      else if startsWith "if" ts then withRedirections (readBranch fuel ts.tail)
      else if startsWith "while" ts || startsWith "until" ts then
        withRedirections do
          let (condition, rest) ← readList fuel ts.tail
          let (body, rest) ← readBody fuel rest
          .ok (.loop (startsWith "until" ts) condition body, rest)
      else if startsWith "for" ts then
        withRedirections do
          match ts.tail with
          | .word name _ :: rest =>
            let rest := dropFeeds rest
            let (values, rest) :=
              if startsWith "in" rest then readValues rest.tail
              else ([[.parameter true ['@'] .value []]], rest)
            let rest :=
              match rest with
              | .operator [';'] :: rest => dropFeeds rest
              | _ => dropFeeds rest
            let (body, rest) ← readBody fuel rest
            .ok (.each (String.ofList ((plainText? name).getD [])) values body, rest)
          | rest => .error (unexpected rest)
      else if startsWith "case" ts then
        withRedirections do
          match ts.tail with
          | .word subject _ :: rest =>
            let rest ← takeWord "in" (dropFeeds rest)
            let (arms, rest) ← readArms fuel rest
            .ok (.choice subject arms, rest)
          | rest => .error (unexpected rest)
      else if isClosed ts then .error (unexpected ts)
      else
        match definition? ts with
        | some (name, rest) =>
          (readCommand fuel rest).map fun (body, rest) => (.definition name body, rest)
        | none => readSimple 0 [] [] [] ts

end

def parse (source : List Char) : Except SyntaxFault Statement :=
  match tokensOf (source.length + 1) 1 source with
  | .error e => .error e
  | .ok tokens =>
    match readList (8 * tokens.length + 8) tokens with
    | .error e => .error e
    | .ok (program, []) => .ok program
    | .ok (_, rest) => .error (unexpected rest)

end ScriptSuite.Shell
