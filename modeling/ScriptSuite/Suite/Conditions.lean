import ScriptSuite.Host.Files
import ScriptSuite.Script.Basic
import ScriptSuite.Variable.Environment

/-!
Conditions of instructions.

A tag is one that the caller has defined, asks for a program, or names a platform. Any
other tag is unknown, and is an error when it is evaluated.
-/

namespace ScriptSuite

/-- The tags that a caller has defined, which go before all others. A tag that is defined anew has
the last value. -/
structure Conditions where
  defined : List (String × Bool)
  deriving DecidableEq, Repr

namespace Conditions

def none : Conditions := ⟨[]⟩

def define (c : Conditions) (tag : String) (value : Bool) : Conditions :=
  ⟨(c.defined.filter fun entry => entry.1 != tag) ++ [(tag, value)]⟩

/-- The value of a tag that has been defined. -/
def value? (c : Conditions) (tag : String) : Option Bool :=
  List.lookup tag c.defined

def isDefined (c : Conditions) (tag : String) : Bool :=
  (c.value? tag).isSome

/-- The operating systems that have tags. -/
def knownSystems : List String :=
  ["android", "dragonfly", "freebsd", "illumos", "ios", "linux", "macos", "netbsd", "openbsd",
    "solaris", "windows"]

/-- The processors that have tags. -/
def knownProcessors : List String :=
  ["aarch64", "arm", "loongarch64", "powerpc64", "riscv64", "s390x", "wasm32", "x86", "x86_64"]

def system : String := "linux"

def processor : String := "x86_64"

/-- Whether a platform has a tag, if the tag is one of a platform. -/
def platform? (tag : String) : Option Bool :=
  if tag = "unix" then some true
  else if tag = "windows" then some false
  else if knownSystems.contains tag then some (tag == system)
  else if knownProcessors.contains tag then some (tag == processor)
  else .none

/-- What stands in front of the name of a program. -/
def programLead : String := "exec:"

/-- Whether a path denotes a file that may be run by somebody. A relative path is seen from the
folder of the host. -/
def isExecutable (h : Host) (p : Path) : Bool :=
  match h.node p with
  | .ok node => node.isRegular && node.mode &&& 0o111 != 0
  | .error _ => false

/-- The file that a program name denotes: the name itself if it has a slash, otherwise the
first along a search list that may be run. -/
def findProgram (h : Host) (name : String) (searchList : Option String) : Option Path :=
  if name.toList.contains '/' then
    if isExecutable h ⟨name⟩ then some ⟨name⟩ else .none
  else
    match searchList with
    | .none => .none
    | some list =>
      ((Path.splitSearchList list).map fun dir => dir.join name).find? (isExecutable h)

/-- The value of a tag, nothing if it is unknown. -/
def tag? (c : Conditions) (h : Host) (searchList : Option String) (tag : String) :
    Option Bool :=
  match c.value? tag with
  | some value => some value
  | .none =>
    match Text.dropLead? programLead.toList tag.toList with
    | some name => some (findProgram h (String.ofList name) searchList).isSome
    | .none => platform? tag

/-- Whether a condition holds, or the tag that is unknown. An exclamation mark does not make an
unknown tag true. -/
def evaluate (c : Conditions) (h : Host) (searchList : Option String) (cond : Condition) :
    Except String Bool :=
  match c.tag? h searchList cond.tag with
  | some value => .ok (value != cond.negated)
  | .none => .error cond.tag

/-- Whether all conditions hold. They are evaluated in order, up to the first that does
not. -/
def allHold (c : Conditions) (h : Host) (searchList : Option String) :
    List Condition → Except String Bool
  | [] => .ok true
  | cond :: rest =>
    match c.evaluate h searchList cond with
    | .error tag => .error tag
    | .ok false => .ok false
    | .ok true => allHold c h searchList rest

end Conditions
end ScriptSuite
