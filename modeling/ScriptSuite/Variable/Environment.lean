import ScriptSuite.Text.Blank

/-!
Environments: the values of variables by name.

An environment lists each name once, in the order in which the names were first set.
-/

namespace ScriptSuite

/-- The variables and their values. -/
abbrev Environment := List (String × String)

namespace Environment

def value? (env : Environment) (name : String) : Option String :=
  List.lookup name env

def put (env : Environment) (name value : String) : Environment :=
  match env with
  | [] => [(name, value)]
  | (k, v) :: rest => if k = name then (k, value) :: rest else (k, v) :: put rest name value

def remove (env : Environment) (name : String) : Environment :=
  env.filter fun entry => entry.1 != name

/-- Gives each variable of `more` its value there; a later entry wins. -/
def putAll (env more : Environment) : Environment :=
  more.foldl (fun acc entry => acc.put entry.1 entry.2) env

/-- Adds the variables of `more` that have no value yet, so that what has been set before wins. -/
def putMissing (env more : Environment) : Environment :=
  more.foldl (fun acc entry =>
    if (acc.value? entry.1).isSome then acc else acc.put entry.1 entry.2) env

theorem value?_put (env : Environment) (name value other : String) :
    (env.put name value).value? other
      = if other = name then some value else env.value? other := by
  induction env with
  | nil =>
    by_cases h : other = name <;>
      simp [put, value?, List.lookup_cons, h, beq_eq_false_iff_ne.mpr]
  | cons entry rest ih =>
    obtain ⟨k, v⟩ := entry
    by_cases hk : k = name
    · subst hk
      by_cases h : other = k
      · simp [put, value?, h]
      · simp [put, value?, List.lookup_cons, h, beq_eq_false_iff_ne.mpr h]
    · by_cases h : other = k
      · subst h
        simp [put, value?, hk]
      · simp only [value?] at ih
        simp [put, value?, List.lookup_cons, hk, beq_eq_false_iff_ne.mpr h, ih]

end Environment

namespace Variable

/-- The name and the value of an assignment `name=value`; the name is not empty and ends
at the first equals sign. -/
def assignment? (s : String) : Option (String × String) :=
  match Text.breakAt (· = '=') s.toList with
  | (key, _ :: value) =>
    if key.isEmpty then none else some (String.ofList key, String.ofList value)
  | (_, []) => none

end Variable
end ScriptSuite
