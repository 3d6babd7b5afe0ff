import ScriptSuite.Regex.Syntax

/-!
Automata of patterns.

A state says what has to hold here and where to go on. A fork goes on in two ways, of which
the first is preferred.
-/

namespace ScriptSuite.Regex

/-- A state of an automaton. States are named by number. -/
inductive State where
  | accept
  | fork (preferred other : Nat)
  | look (condition : Look) (next : Nat)
  | consume (set : Text.Ranges) (next : Nat)
  deriving Inhabited

structure Automaton where
  states : Array State
  start : Nat

/-- The states so far and where a part begins. -/
abbrev Built := Nat × Array State

namespace Automaton

/-- What a pattern adds to an automaton, given where to go on after it. -/
abbrev Part := Nat → Array State → Built

/-- A fork for a repetition: `again` is preferred if it is greedy. -/
def loop (greedy : Bool) (again after : Nat) : State :=
  if greedy then .fork again after else .fork after again

/-- A part several times in a row. -/
def times (part : Part) : Nat → Part
  | 0 => fun next states => (next, states)
  | n + 1 => fun next states =>
    let (next, states) := times part n next states
    part next states

/-- A part at most so many times; every time may be the last. -/
def atMost (part : Part) (greedy : Bool) (final : Nat) : Nat → Array State → Built
  | 0, states => (final, states)
  | n + 1, states =>
    let (next, states) := atMost part greedy final n states
    let (again, states) := part next states
    (states.size, states.push (loop greedy again final))

/-- A part once or more. -/
def onceOrMore (part : Part) (greedy : Bool) : Part := fun next states =>
  let turn := states.size
  let (again, states) := part turn (states.push .accept)
  (again, states.set! turn (loop greedy again next))

/-- A part any number of times. A part that may match without a character is tried once
before it is repeated, so that its preferences count. -/
def anyNumber (part : Part) (canBeEmpty greedy : Bool) : Part := fun next states =>
  if canBeEmpty then
    let (again, states) := onceOrMore part greedy next states
    (states.size, states.push (loop greedy again next))
  else
    let turn := states.size
    let (again, states) := part turn (states.push .accept)
    (turn, states.set! turn (loop greedy again next))

def repetition (part : Part) (canBeEmpty : Bool) (least : Nat) (most : Option Nat)
    (greedy : Bool) : Part := fun next states =>
  match most, least with
  | some most, _ =>
    let (next, states) := atMost part greedy next (most - least) states
    times part least next states
  | none, 0 => anyNumber part canBeEmpty greedy next states
  | none, least + 1 =>
    let (next, states) := onceOrMore part greedy next states
    times part least next states

end Automaton

open Automaton in
/-- What a pattern adds to an automaton. -/
def Expression.part : Expression → Part
  | .empty => fun next states => (next, states)
  | .characters set => fun next states => (states.size, states.push (.consume set next))
  | .look condition => fun next states => (states.size, states.push (.look condition next))
  | .sequence first second => fun next states =>
    let (next, states) := second.part next states
    first.part next states
  | .either preferred other => fun next states =>
    let (one, states) := preferred.part next states
    let (two, states) := other.part next states
    (states.size, states.push (.fork one two))
  | .repeated body least most greedy =>
    repetition body.part body.canBeEmpty least most greedy
  | .group body => body.part

def Expression.automaton (e : Expression) : Automaton :=
  let (start, states) := e.part 0 #[.accept]
  ⟨states, start⟩

end ScriptSuite.Regex
