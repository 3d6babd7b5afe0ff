/-!
Faults of the host.

What goes wrong with files and programs is either a refusal of the system, which has a
number, or found before the system is asked.
-/

namespace ScriptSuite

inductive Refusal where
  | noEntry
  | badFormat
  | noPermission
  | busy
  | alreadyThere
  | otherDevice
  | notFolder
  | isFolder
  | invalid
  | nameTooLong
  | notEmpty
  deriving DecidableEq, Repr

namespace Refusal

def number : Refusal → Nat
  | .noEntry => 2
  | .badFormat => 8
  | .noPermission => 13
  | .busy => 16
  | .alreadyThere => 17
  | .otherDevice => 18
  | .notFolder => 20
  | .isFolder => 21
  | .invalid => 22
  | .nameTooLong => 36
  | .notEmpty => 39

def words : Refusal → String
  | .noEntry => "No such file or directory"
  | .badFormat => "Exec format error"
  | .noPermission => "Permission denied"
  | .busy => "Device or resource busy"
  | .alreadyThere => "File exists"
  | .otherDevice => "Invalid cross-device link"
  | .notFolder => "Not a directory"
  | .isFolder => "Is a directory"
  | .invalid => "Invalid argument"
  | .nameTooLong => "File name too long"
  | .notEmpty => "Directory not empty"

end Refusal

/-- What goes wrong with a file or a program. -/
inductive HostError where
  | refused (refusal : Refusal)
  /-- A text was to be read from bytes that are not UTF-8. -/
  | invalidText
  /-- The null character stands in a path. -/
  | nullInPath
  /-- The null character stands in an argument. -/
  | nullInArgument
  /-- Something else than a file was to be copied. -/
  | notAFile
  /-- A cause with a text of its own. -/
  | other (text : String)
  deriving DecidableEq, Repr

def HostError.message : HostError → String
  | .refused r => r.words ++ " (os error " ++ toString r.number ++ ")"
  | .invalidText => "stream did not contain valid UTF-8"
  | .nullInPath => "file name contained an unexpected NUL byte"
  | .nullInArgument => "nul byte found in provided data"
  | .notAFile => "the source path is neither a regular file nor a symlink to a regular file"
  | .other text => text

end ScriptSuite
