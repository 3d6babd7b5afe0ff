import ScriptSuite.Json.Basic
import ScriptSuite.Suite.Result
import ScriptSuite.Text.Entities
import ScriptSuite.Text.Line

/-!
Results as they are shown: for people, as JSON, and as JUnit reports in XML.
-/

namespace ScriptSuite.Cli

def linesOf (s : String) : List String :=
  (Text.lineTexts s.toList).map String.ofList

def unlines (lines : List String) : String :=
  String.join (lines.map fun line => line ++ "\n")

def countOf (outcome : Outcome) (results : List ScriptResult) : Nat :=
  (results.filter fun r => r.outcome = outcome).length

/-- Where a script failed: its path, and the line if it is known. A result without a failure is
shown with its path alone. -/
def placeOf (r : ScriptResult) : String :=
  match r.failure.bind Failure.line with
  | some line => r.path.shown ++ ":" ++ toString line
  | none => r.path.shown

/-! ### For people -/

/-- The lines that show a result. The log is shown if the script failed, or if `isVerbose`. -/
def humanLines (isVerbose : Bool) (r : ScriptResult) : List String :=
  let time := r.duration.rounded
  let head :=
    match r.outcome with
    | .passed =>
      ["✓ " ++ r.name ++ " (" ++ time ++ (if r.isUpdated then ", updated" else "") ++ ")"]
    | .skipped => ["- " ++ r.name ++ " (skipped: " ++ r.skipReason.getD "" ++ ")"]
    | .failed =>
      ("✗ " ++ r.name ++ " (" ++ time ++ ")") ::
        match r.failure with
        | none => []
        | some f => ("    " ++ placeOf r) :: (linesOf f.message).map ("    " ++ ·)
  let log :=
    if isVerbose || r.outcome = .failed then (linesOf r.log).map ("      " ++ ·) else []
  head ++ log ++ r.warnings.map ("    warning: " ++ ·)

def human (isVerbose : Bool) (results : List ScriptResult) : String :=
  unlines (results.flatMap (humanLines isVerbose))
    ++ "\n" ++ toString (countOf .passed results) ++ " passed, "
    ++ toString (countOf .failed results) ++ " failed, "
    ++ toString (countOf .skipped results) ++ " skipped\n"

/-! ### JSON -/

/-- A result as a JSON value, with its keys in alphabetical order, its location being written as
`path`. What is not there is left out, and so are warnings if there are none. -/
def jsonOf (path : String) (r : ScriptResult) : JsonValue :=
  .object <|
    [("duration", .number r.duration.seconds)]
      ++ (r.failure.toList.map fun f =>
        ("failure", .object ((f.line.toList.map fun n => ("line", .nat n))
          ++ [("message", .string f.message)])))
      ++ [("log", .string r.log), ("name", .string r.name), ("outcome", .string r.outcome.name),
        ("path", .string path)]
      ++ (r.skipReason.toList.map fun reason => ("skip_reason", .string reason))
      ++ [("updated", .bool r.isUpdated)]
      ++ (if r.warnings.isEmpty then [] else [("warnings", .strings r.warnings)])

/-- The results as JSON; nothing if one of them is found at a location without a text. There is no
way to show some of the results then. -/
def json? (results : List ScriptResult) : Option String :=
  let values := results.mapM fun (r : ScriptResult) => r.path.text?.map fun path => jsonOf path r
  values.map fun values =>
    let whole : JsonValue := .object
      [ ("failed", .nat (countOf .failed results)),
        ("passed", .nat (countOf .passed results)),
        ("results", .array values),
        ("skipped", .nat (countOf .skipped results)) ]
    whole.pretty ++ "\n"

/-! ### JUnit -/

def xmlAttribute (name value : String) : String :=
  " " ++ name ++ "=\"" ++ Text.escapeXml value ++ "\""

/-- The first line of what is said about a failure. -/
def headline : Option Failure → String
  | some f => (linesOf f.message).headD ""
  | none => "Script failed"

/-- The lines of a report for one result. Whatever comes from the script is escaped, and the layout
adds nothing but blanks to it. -/
def junitCase (r : ScriptResult) : List String :=
  let inner : List String :=
    match r.outcome with
    | .passed => []
    | .skipped => ["      <skipped" ++ xmlAttribute "message" (r.skipReason.getD "") ++ "/>"]
    | .failed =>
      [ "      <failure" ++ xmlAttribute "message" (headline r.failure) ++ ">",
        Text.escapeXml (placeOf r) ]
        ++ (r.failure.toList.map fun f => Text.escapeXml f.message)
        ++ ["      </failure>"]
  let log :=
    if r.log = "" then []
    else ["      <system-out>" ++ Text.escapeXml r.log ++ "</system-out>"]
  ["    <testcase" ++ xmlAttribute "name" r.name ++ xmlAttribute "classname" r.path.shown
      ++ xmlAttribute "time" r.duration.secondsToMillis ++ ">"]
    ++ inner ++ log ++ ["    </testcase>"]

/-- The results as a JUnit report; `total` is how long the run took. -/
def junit (total : Duration) (results : List ScriptResult) : String :=
  let count := toString results.length
  let failures := toString (countOf .failed results)
  let skipped := toString (countOf .skipped results)
  let time := xmlAttribute "time" total.secondsToMillis
  unlines <|
    [ "<?xml version=\"1.0\" encoding=\"UTF-8\"?>",
      "<testsuites" ++ xmlAttribute "tests" count ++ xmlAttribute "failures" failures ++ time
        ++ ">",
      "  <testsuite" ++ xmlAttribute "name" "scriptest" ++ xmlAttribute "tests" count
        ++ xmlAttribute "failures" failures ++ xmlAttribute "skipped" skipped ++ time ++ ">" ]
    ++ results.flatMap junitCase
    ++ ["  </testsuite>", "</testsuites>"]

end ScriptSuite.Cli
