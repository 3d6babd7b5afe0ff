import ScriptSuite.Regex.Automaton
import ScriptSuite.Regex.Property.Trait

/-!
Matches of a pattern in a text.

All ways to match are followed at once, in the order of preference; of two ways that meet
in a state the later is dropped. The match that starts first is taken, and of those that
start there the one that is preferred.
-/

namespace ScriptSuite.Regex

/-- Whether a character belongs to words. -/
def isWordCharacter (everyLanguage : Bool) (c : Char) : Bool :=
  if c.toNat < 0x80 then c.isAlphanum || c = '_'
  else everyLanguage && Property.word.holds c

/-- Whether there is a character that belongs to words. -/
def isWordAt (everyLanguage : Bool) : Option Char → Bool
  | none => false
  | some c => isWordCharacter everyLanguage c

/-- Whether a condition holds between two characters; at an end of the text there is none. -/
def Look.holds (before after : Option Char) : Look → Bool
  | textStart => before.isNone
  | textEnd => after.isNone
  | lineStart => before.isNone || before = some '\n'
  | lineEnd => after.isNone || after = some '\n'
  | lineStartReturn =>
    before.isNone || before = some '\n' || (before = some '\r' && after != some '\n')
  | lineEndReturn =>
    after.isNone || after = some '\r' || (after = some '\n' && before != some '\r')
  | wordEdge e => isWordAt e before != isWordAt e after
  | noWordEdge e => isWordAt e before == isWordAt e after
  | wordStart e => !isWordAt e before && isWordAt e after
  | wordEnd e => isWordAt e before && !isWordAt e after
  | noWordBefore e => !isWordAt e before
  | noWordAfter e => !isWordAt e after

/-- A way to match: the state that it is in, and where it started. -/
structure Trail where
  state : Nat
  start : Nat

/-- A match: where it starts and ends, in characters. -/
structure Span where
  start : Nat
  stop : Nat
  deriving Repr, DecidableEq

namespace Automaton

/-- Follows the states in the list without a character: the states seen, and those that
accept or want a character, the least preferred first. Every step sees a new state or
takes one off the list, so twice the number of states bounds the steps. -/
def followFrom (a : Automaton) (holds : Look → Bool) :
    Nat → List Nat → Array Bool → List Nat → Array Bool × List Nat
  | 0, _, seen, found => (seen, found)
  | _, [], seen, found => (seen, found)
  | fuel + 1, i :: todo, seen, found =>
    if seen[i]? = some true then followFrom a holds fuel todo seen found
    else
      let seen := seen.set! i true
      match a.states[i]? with
      | none => followFrom a holds fuel todo seen found
      | some .accept => followFrom a holds fuel todo seen (i :: found)
      | some (.consume _ _) => followFrom a holds fuel todo seen (i :: found)
      | some (.fork preferred other) =>
        followFrom a holds fuel (preferred :: other :: todo) seen found
      | some (.look condition next) =>
        followFrom a holds fuel (if holds condition then next :: todo else todo) seen found

/-- Follows trails without a character. -/
def follow (a : Automaton) (holds : Look → Bool) (trails : List Trail) : List Trail :=
  let step (state : Array Bool × List Trail) (t : Trail) : Array Bool × List Trail :=
    let (seen, found) := a.followFrom holds (2 * a.states.size + 2) [t.state] state.1 []
    (seen, found.foldr (fun i found => ⟨i, t.start⟩ :: found) state.2)
  (trails.foldl step (Array.replicate a.states.size false, [])).2.reverse

/-- What trails come to at a position whose next character is `after`: those that took it,
and the match if one accepts; what is less preferred than that is dropped. -/
def advance (a : Automaton) (position : Nat) (after : Option Char) :
    List Trail → List Trail × Option Span
  | [] => ([], none)
  | t :: trails =>
    match a.states[t.state]? with
    | some .accept => ([], some ⟨t.start, position⟩)
    | some (.consume set next) =>
      let (moved, found) := advance a position after trails
      match after with
      | some c => if set.holds c then (⟨next, t.start⟩ :: moved, found) else (moved, found)
      | none => (moved, found)
    | _ => advance a position after trails

/-- Searches the rest of a text with the trails so far and the best match so far. -/
def searchFrom (a : Automaton) (before : Option Char) (position : Nat) (trails : List Trail)
    (best : Option Span) (rest : List Char) : Option Span :=
  let trails := if best.isNone then trails ++ [⟨a.start, position⟩] else trails
  if trails.isEmpty then best
  else
    let after := rest.head?
    let (moved, found) := a.advance position after (a.follow (Look.holds before after) trails)
    let best := found.or best
    match rest with
    | [] => best
    | c :: rest => searchFrom a (some c) (position + 1) moved best rest

/-- The first match in the rest of a text. -/
def find? (a : Automaton) (before : Option Char) (position : Nat) (rest : List Char) :
    Option Span :=
  a.searchFrom before position [] none rest

/-- Goes on in a text by a number of characters. -/
def goOn (before : Option Char) : Nat → List Char → Option Char × List Char
  | 0, rest => (before, rest)
  | _, [] => (before, [])
  | n + 1, c :: rest => goOn (some c) n rest

/-- The number of matches from a position on that do not overlap. A match without a
character does not count where the match before it ended. -/
def countFrom (a : Automaton) :
    Nat → Option Char → Nat → Option Nat → List Char → Nat
  | 0, _, _, _, _ => 0
  | fuel + 1, before, position, last, rest =>
    match a.find? before position rest with
    | none => 0
    | some span =>
      if span.start = span.stop && last = some span.stop then
        match rest with
        | [] => 0
        | c :: rest => countFrom a fuel (some c) (position + 1) last rest
      else
        let (before, rest) := goOn before (span.stop - position) rest
        1 + countFrom a fuel before span.stop (some span.stop) rest

/-- The number of matches in a text. Every turn but the first passes a character. -/
def count (a : Automaton) (text : List Char) : Nat :=
  a.countFrom (2 * text.length + 2) none 0 none text

def occursIn (a : Automaton) (text : List Char) : Bool :=
  (a.find? none 0 text).isSome

end Automaton
end ScriptSuite.Regex
