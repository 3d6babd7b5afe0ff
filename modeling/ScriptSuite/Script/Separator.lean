import ScriptSuite.Text.Blank
import ScriptSuite.Text.Line

/-!
Separator lines of the archive.

A separator is written `-- name --`; blanks after it and around the name do not count.
A line of that form without a name is malformed, and never data.
-/

namespace ScriptSuite

/-- What a line is to the archive. -/
inductive Separator where
  /-- Not a separator. -/
  | absent
  /-- The form of a separator, but no name. -/
  | malformed (text : List Char)
  /-- The separator before the file of that name. -/
  | named (name : List Char)
  deriving DecidableEq, Repr

namespace Separator

/-- What a separator starts with. -/
def opening : List Char := ['-', '-', ' ']

/-- What a separator ends with. -/
def closing : List Char := [' ', '-', '-']

/-- Reads the text of a line. Blanks at the end of the line and around the name are dropped, so that
lines of different spelling may be read as the same separator. -/
def ofLine (text : List Char) : Separator :=
  let line := Text.trimEnd text
  match Text.dropLead? opening line with
  | none => .absent
  | some rest =>
    match Text.dropTail? closing rest with
    | some inner =>
      let name := Text.trim inner
      if name.isEmpty then .malformed line else .named name
    | none =>
      -- the opening and the closing share their blank
      if rest = ['-', '-'] then .malformed line else .absent

/-- The separator line of a file, without its ending. This is the one spelling that scripts are
written back with, whatever the line has been like. -/
def line (name : List Char) : List Char :=
  opening ++ name ++ closing

/-- Whether a line of the text is a separator, be it malformed. Such a text cannot be the
data of a file in an archive. -/
def occursIn (cs : List Char) : Bool :=
  (Text.lineTexts cs).any fun text => ofLine text != .absent

end Separator
end ScriptSuite
