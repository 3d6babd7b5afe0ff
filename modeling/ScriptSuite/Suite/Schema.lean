import ScriptSuite.Json.Basic

/-!
The schema of configurations: which fields there are, and of what kind their values are.
-/

namespace ScriptSuite.SuiteConfig

open JsonValue (object array string number)

/-- A value of a kind. -/
def kind (name : String) : String × JsonValue := ("type", string name)

/-- What a field is for, and the value that it has if it is not given. -/
def about (description : String) (default_ : JsonValue) : List (String × JsonValue) :=
  [("description", string description), ("default", default_)]

/-- A whole number of a format that is not negative. -/
def wholeNumber (kind : JsonValue) (format : String) : List (String × JsonValue) :=
  [("type", kind), ("format", string format), ("minimum", number "0.0")]

/-- A number of seconds that need not be given. -/
def seconds (description : String) : JsonValue :=
  object (about description .null
    ++ wholeNumber (array [string "integer", string "null"]) "uint64")

/-- A table with values of a kind. -/
def tableOf (description item : String) : JsonValue :=
  object (about description (object [])
    ++ [kind "object", ("additionalProperties", object [kind item])])

/-- A switch that is off if it is not given. -/
def switch (description : String) : JsonValue :=
  object (about description (.bool false) ++ [kind "boolean"])

def fieldSchemas : List (String × JsonValue) :=
  [ ("conditions", tableOf "Values for caller-defined \x60[tag]\x60 conditions." "boolean"),
    ("env", tableOf "Extra environment variables set in every script's session." "string"),
    ("serial",
      switch "Run scripts one after another instead of in parallel (default: false)."),
    ("timeout",
      seconds
        "Per-script timeout in seconds. Bounds foreground commands and \x60wait\x60."),
    ("update", switch "Rewrite golden files in scripts when comparisons differ."),
    ("version",
      object (about "Config file format version." (.nat 1)
        ++ wholeNumber (string "integer") "uint32")),
    ("wait_timeout",
      seconds "Seconds \x60wait\x60 blocks on a background process before giving up."),
    ("workdir_root",
      object (about
        ("Directory sandboxes are created in. "
          ++ "Use \"local\" for \x60.scriptest/<timestamp>/\x60 in the script root, or a path. "
          ++ "When not set the system temp directory is used.") .null
        ++ [("anyOf",
          array [object [("$ref", string "#/definitions/WorkdirRoot")], object [kind "null"]])])) ]

/-- The ways to say where sandboxes are made. -/
def workRootSchema : JsonValue :=
  object [
    ("description", string "Where sandboxes are created."),
    ("oneOf", array [
      object [
        ("description", string "\x60.scriptest/<timestamp>/\x60 in the script root."),
        kind "string",
        ("enum", array [string "Local"])],
      object [
        ("description", string "A specific directory."),
        kind "object",
        ("required", array [string "Path"]),
        ("properties", object [("Path", object [kind "string"])]),
        ("additionalProperties", .bool false)]])]

def schema : JsonValue :=
  object [
    ("$schema", string "http://json-schema.org/draft-07/schema#"),
    ("title", string "SuiteConfig"),
    ("description", string "Suite-level configuration loaded from the script root."),
    kind "object",
    ("properties", object fieldSchemas),
    ("additionalProperties", .bool false),
    ("definitions", object [("WorkdirRoot", workRootSchema)])]

end ScriptSuite.SuiteConfig
