import Mathlib.Data.List.Perm.Basic
import ScriptSuite.Proofs.Suite.Finish
import ScriptSuite.Proofs.Suite.Step
import ScriptSuite.Proofs.Text.Trimming

/-!
The conditions of a line.

They are read in order, and no further than the first that does not hold (`allHold_judges`). So
whether a line is run does not depend on their order, but a tag that nobody knows is told only if
no false condition comes before it: the conditions are read as if all of them counted if and only
if none of them hides such a tag, and the order does not matter if and only if there is not both a
false condition and an unknown tag (`allHold_strict_iff`).
-/

namespace ScriptSuite

namespace Conditions

/-- The tag is not defined, asks for no program and names no platform. -/
structure Unknown (c : Conditions) (tag : String) : Prop where
  undefined : c.isDefined tag = false
  noProgram : ¬ programLead.toList <+: tag.toList
  noFamily : tag ≠ "unix" ∧ tag ≠ "windows"
  noSystem : tag ∉ knownSystems
  noProcessor : tag ∉ knownProcessors

section

variable (c : Conditions) (h : Host) (searchList : Option String)

/-- The tag is known, and has the value that the condition asks for. -/
def Holds (cond : Condition) : Prop :=
  c.evaluate h searchList cond = .ok true

/-- The tag is known, and does not have the value that the condition asks for. -/
def Fails (cond : Condition) : Prop :=
  c.evaluate h searchList cond = .ok false

/-- All conditions of a line count: an unknown tag is an error wherever it stands, and otherwise
the line is run if and only if every condition holds. -/
structure Strict (conds : List Condition) : Prop where
  unknown : (∃ cond ∈ conds, c.Unknown cond.tag) →
    ∃ cond ∈ conds, c.Unknown cond.tag ∧ c.allHold h searchList conds = .error cond.tag
  known : (∀ cond ∈ conds, ¬ c.Unknown cond.tag) →
    ∃ isMet, c.allHold h searchList conds = .ok isMet ∧
      (isMet = true ↔ ∀ cond ∈ conds, c.Holds h searchList cond)

/-- The first condition that does not hold is false, and an unknown tag stands behind it. -/
def Hides (conds : List Condition) : Prop :=
  ∃ front cond back, conds = front ++ cond :: back ∧
    (∀ before ∈ front, c.Holds h searchList before) ∧ c.Fails h searchList cond ∧
    ∃ behind ∈ back, c.Unknown behind.tag

/-- What the conditions of a line come to, up to the first that does not hold. -/
inductive Judges (conds : List Condition) : Except String Bool → Prop where
  | met : (∀ cond ∈ conds, c.Holds h searchList cond) → Judges conds (.ok true)
  | stops {front : List Condition} {cond : Condition} {back : List Condition} :
      conds = front ++ cond :: back → (∀ before ∈ front, c.Holds h searchList before) →
      c.Fails h searchList cond → Judges conds (.ok false)
  | unknown {front : List Condition} {cond : Condition} {back : List Condition} :
      conds = front ++ cond :: back → (∀ before ∈ front, c.Holds h searchList before) →
      c.Unknown cond.tag → Judges conds (.error cond.tag)

end

/-- Both run the line, both pass it over, or both are an error. -/
def SameFate (r r' : Except String Bool) : Prop :=
  r.toOption = r'.toOption

variable {c : Conditions} {h : Host} {searchList : Option String} {tag : String}
  {cond : Condition} {conds conds' : List Condition}

/-! ### One condition -/

theorem platform?_eq_none_iff :
    platform? tag = .none ↔
      (tag ≠ "unix" ∧ tag ≠ "windows") ∧ tag ∉ knownSystems ∧ tag ∉ knownProcessors := by
  rw [platform?]
  by_cases unix : tag = "unix"
  · simp [unix]
  · by_cases windows : tag = "windows"
    · simp [windows]
    · by_cases system : tag ∈ knownSystems
      · simp [unix, windows, system]
      · simp [unix, windows, system]

theorem tag?_eq_none_iff (h : Host) (searchList : Option String) :
    c.tag? h searchList tag = .none ↔ c.Unknown tag := by
  have led : Text.dropLead? programLead.toList tag.toList = .none ↔
      ¬ programLead.toList <+: tag.toList := by
    rw [Option.eq_none_iff_forall_ne_some]
    constructor
    · rintro never ⟨rest, split⟩
      exact never rest (Text.dropLead?_eq_some_iff.mpr split.symm)
    · intro never rest found
      exact never ⟨rest, (Text.dropLead?_eq_some_iff.mp found).symm⟩
  rw [tag?]
  cases value : c.value? tag with
  | some _ =>
    refine iff_of_false nofun fun unknown => ?_
    simpa [isDefined, value] using unknown.undefined
  | none =>
    cases asks : Text.dropLead? programLead.toList tag.toList with
    | some name =>
      refine iff_of_false nofun fun unknown => ?_
      exact absurd (asks.symm.trans (led.mpr unknown.noProgram)) nofun
    | none =>
      rw [platform?_eq_none_iff]
      constructor
      · rintro ⟨family, system, processor⟩
        exact ⟨by rw [isDefined, value]; rfl, led.mp asks, family, system, processor⟩
      · intro unknown
        exact ⟨unknown.noFamily, unknown.noSystem, unknown.noProcessor⟩

/-- A condition is unknown whether it is negated or not. -/
theorem unknown_iff (h : Host) (searchList : Option String) :
    c.Unknown cond.tag ↔ c.evaluate h searchList cond = .error cond.tag := by
  rw [← tag?_eq_none_iff h searchList, evaluate]
  cases c.tag? h searchList cond.tag <;> simp

theorem Holds.known (holds : c.Holds h searchList cond) : ¬ c.Unknown cond.tag := by
  intro unknown
  exact absurd (holds.symm.trans ((unknown_iff h searchList).mp unknown)) nofun

theorem Fails.known (fails : c.Fails h searchList cond) : ¬ c.Unknown cond.tag := by
  intro unknown
  exact absurd (fails.symm.trans ((unknown_iff h searchList).mp unknown)) nofun

theorem Fails.not_holds (fails : c.Fails h searchList cond) : ¬ c.Holds h searchList cond := by
  intro holds
  exact absurd (fails.symm.trans holds) nofun

/-! ### The conditions of a line -/

theorem allHold_cons_of_holds (holds : c.Holds h searchList cond) (conds : List Condition) :
    c.allHold h searchList (cond :: conds) = c.allHold h searchList conds := by
  rw [Holds] at holds
  rw [allHold, holds]

/-- Behind a condition that fails nothing is evaluated any more. -/
theorem allHold_cons_of_fails (fails : c.Fails h searchList cond) (conds : List Condition) :
    c.allHold h searchList (cond :: conds) = .ok false := by
  rw [Fails] at fails
  rw [allHold, fails]

theorem allHold_cons_of_unknown (unknown : c.Unknown cond.tag) (conds : List Condition) :
    c.allHold h searchList (cond :: conds) = .error cond.tag := by
  rw [allHold, (unknown_iff h searchList).mp unknown]

/-- A condition holds, fails or is unknown. -/
theorem holds_or (c : Conditions) (h : Host) (searchList : Option String) (cond : Condition) :
    c.Holds h searchList cond ∨ c.Fails h searchList cond ∨ c.Unknown cond.tag := by
  rw [unknown_iff h searchList, Holds, Fails, evaluate]
  cases c.tag? h searchList cond.tag with
  | none => simp
  | some value => cases value <;> cases cond.negated <;> simp

/-- The conditions come to what the first of them says that does not hold. -/
theorem allHold_judges (c : Conditions) (h : Host) (searchList : Option String)
    (conds : List Condition) : c.Judges h searchList conds (c.allHold h searchList conds) := by
  induction conds with
  | nil => exact .met (by simp)
  | cons cond conds ih =>
    rcases holds_or c h searchList cond with holds | fails | unknown
    · rw [allHold_cons_of_holds holds]
      have further {front : List Condition} (all : ∀ before ∈ front, c.Holds h searchList before) :
          ∀ before ∈ cond :: front, c.Holds h searchList before :=
        List.forall_mem_cons.mpr ⟨holds, all⟩
      generalize c.allHold h searchList conds = result at ih
      cases ih with
      | met all => exact .met (further all)
      | stops split all fails => exact .stops (congrArg (cond :: ·) split) (further all) fails
      | unknown split all unknown =>
        exact .unknown (congrArg (cond :: ·) split) (further all) unknown
    · rw [allHold_cons_of_fails fails]
      exact .stops (List.nil_append _).symm (by simp) fails
    · rw [allHold_cons_of_unknown unknown]
      exact .unknown (List.nil_append _).symm (by simp) unknown

theorem allHold_append (front conds : List Condition)
    (all : ∀ before ∈ front, c.Holds h searchList before) :
    c.allHold h searchList (front ++ conds) = c.allHold h searchList conds := by
  induction front with
  | nil => rfl
  | cons cond front ih =>
    obtain ⟨holds, all⟩ := List.forall_mem_cons.mp all
    rw [List.cons_append, allHold_cons_of_holds holds, ih all]

/-- Where an unknown tag is hidden, the answer is that the conditions do not hold. -/
theorem Hides.allHold (hides : c.Hides h searchList conds) :
    c.allHold h searchList conds = .ok false := by
  obtain ⟨front, cond, back, rfl, all, fails, -⟩ := hides
  rw [allHold_append _ _ all, allHold_cons_of_fails fails]

theorem Hides.unknown (hides : c.Hides h searchList conds) :
    ∃ cond ∈ conds, c.Unknown cond.tag := by
  obtain ⟨front, cond, back, rfl, -, -, behind, mem, unknown⟩ := hides
  exact ⟨behind, by simp [mem], unknown⟩

theorem Hides.fails (hides : c.Hides h searchList conds) :
    ∃ cond ∈ conds, c.Fails h searchList cond := by
  obtain ⟨front, cond, back, rfl, -, fails, -⟩ := hides
  exact ⟨cond, by simp, fails⟩

/-- All conditions count if and only if the first false one hides no unknown tag. -/
theorem strict_iff : c.Strict h searchList conds ↔ ¬ c.Hides h searchList conds := by
  constructor
  · intro strict hides
    obtain ⟨cond, -, -, refused⟩ := strict.unknown hides.unknown
    exact absurd (hides.allHold.symm.trans refused) nofun
  · intro shows
    cases judged : c.allHold h searchList conds with
    | error tag =>
      have judges := allHold_judges c h searchList conds
      rw [judged] at judges
      cases judges with
      | @unknown front cond back split _ unknown =>
        have mem : cond ∈ conds := by simp [split]
        exact ⟨fun _ => ⟨cond, mem, unknown, judged⟩, fun known => absurd unknown (known cond mem)⟩
    | ok isMet =>
      have judges := allHold_judges c h searchList conds
      rw [judged] at judges
      cases judges with
      | met all =>
        refine ⟨fun ⟨cond, mem, unknown⟩ => absurd unknown (all cond mem).known, fun _ => ?_⟩
        exact ⟨true, judged, iff_of_true rfl all⟩
      | @stops front cond back split all fails =>
        have unmet : ¬ ∀ cond ∈ conds, c.Holds h searchList cond :=
          fun met => fails.not_holds (met cond (by simp [split]))
        refine ⟨fun ⟨other, mem, unknown⟩ => ?_, fun _ => ⟨false, judged, iff_of_false nofun unmet⟩⟩
        rw [split, List.mem_append, List.mem_cons] at mem
        rcases mem with before | rfl | behind
        · exact absurd unknown (all other before).known
        · exact absurd unknown fails.known
        · exact absurd ⟨front, cond, back, split, all, fails, other, behind, unknown⟩ shows

/-! ### The order of the conditions -/

theorem Strict.sameFate (strict : c.Strict h searchList conds)
    (strict' : c.Strict h searchList conds') (perm : conds'.Perm conds) :
    SameFate (c.allHold h searchList conds') (c.allHold h searchList conds) := by
  by_cases unknown : ∃ cond ∈ conds, c.Unknown cond.tag
  · obtain ⟨_, -, -, refused⟩ := strict.unknown unknown
    obtain ⟨cond, mem, unknown⟩ := unknown
    obtain ⟨_, -, -, refused'⟩ := strict'.unknown ⟨cond, perm.mem_iff.mpr mem, unknown⟩
    rw [refused, refused']
    rfl
  · have known : ∀ cond ∈ conds, ¬ c.Unknown cond.tag := fun cond mem is => unknown ⟨cond, mem, is⟩
    obtain ⟨isMet, judged, met⟩ := strict.known known
    obtain ⟨isMet', judged', met'⟩ := strict'.known fun cond mem => known cond (perm.mem_iff.mp mem)
    have same : isMet' = isMet := by
      rw [Bool.eq_iff_iff, met, met']
      exact forall_congr' fun cond => by rw [perm.mem_iff]
    rw [judged, judged', same]
    rfl

theorem perm_front (mem : cond ∈ conds) : ∃ rest, (cond :: rest).Perm conds := by
  obtain ⟨front, back, rfl⟩ := List.append_of_mem mem
  exact ⟨front ++ back, List.perm_middle.symm⟩

/-- The order does not matter if and only if there is not both a false condition and an unknown
tag. -/
theorem sameFate_iff :
    (∀ conds' : List Condition, conds'.Perm conds →
        SameFate (c.allHold h searchList conds') (c.allHold h searchList conds)) ↔
      ¬ ((∃ cond ∈ conds, c.Unknown cond.tag) ∧ ∃ cond ∈ conds, c.Fails h searchList cond) := by
  constructor
  · rintro same ⟨⟨other, mem', unknown⟩, ⟨cond, mem, fails⟩⟩
    obtain ⟨rest, first⟩ := perm_front mem
    obtain ⟨rest', first'⟩ := perm_front mem'
    have passed := same _ first
    have refused := same _ first'
    rw [allHold_cons_of_fails fails] at passed
    rw [allHold_cons_of_unknown unknown] at refused
    exact absurd (refused.trans passed.symm) nofun
  · intro apart conds' perm
    have strict : c.Strict h searchList conds :=
      strict_iff.mpr fun hides => apart ⟨hides.unknown, hides.fails⟩
    refine strict.sameFate (strict_iff.mpr fun hides => apart ?_) perm
    obtain ⟨other, mem', unknown⟩ := hides.unknown
    obtain ⟨cond, mem, fails⟩ := hides.fails
    exact ⟨⟨other, perm.mem_iff.mp mem', unknown⟩, ⟨cond, perm.mem_iff.mp mem, fails⟩⟩

/-- Both lines do the same to the run, but for which tag is told to be unknown. -/
def SameEnd (r r' : StepEnd × Session) : Prop :=
  r = r' ∨ ∃ tag tag' t, r = (.fails (.unknownCondition tag), t) ∧
    r' = (.fails (.unknownCondition tag'), t)

/-- Lines that differ in their conditions alone do the same if these have the same fate. -/
theorem SameFate.step {e : Engine} {s t : Session} {inst : Instruction}
    (inTime : Engine.isOverdue s = (false, t))
    (same : SameFate (e.conditionsHold t { inst with conditions := conds })
      (e.conditionsHold t inst)) :
    SameEnd (e.step { inst with conditions := conds } s) (e.step inst s) := by
  have unknown {line : Instruction} {tag : String} (told : e.conditionsHold t line = .error tag) :
      e.step line s = (.fails (.unknownCondition tag), t) := by
    rw [Engine.conditionsHold] at told
    simp only [Engine.step, inTime, told]
  have passed {line : Instruction} (told : e.conditionsHold t line = .ok false) :
      e.step line s = (.goesOn, t) := by
    rw [Engine.conditionsHold] at told
    simp only [Engine.step, inTime, told]
  have met {line : Instruction} (told : e.conditionsHold t line = .ok true) :
      e.step line s = e.perform line t := by
    rw [Engine.conditionsHold] at told
    simp only [Engine.step, inTime, told]
  cases first : e.conditionsHold t { inst with conditions := conds } with
  | error tag =>
    cases second : e.conditionsHold t inst with
    | error tag' => exact .inr ⟨tag, tag', t, unknown first, unknown second⟩
    | ok _ =>
      rw [first, second] at same
      cases same
  | ok isMet =>
    cases second : e.conditionsHold t inst with
    | error _ =>
      rw [first, second] at same
      cases same
    | ok _ =>
      rw [first, second] at same
      cases same
      cases isMet with
      | false =>
        rw [passed first, passed second]
        exact .inl rfl
      | true =>
        rw [met first, met second]
        exact .inl rfl

/-- All conditions of a line count if and only if the first false one hides no unknown tag. Their
order does not matter if and only if there is not both a false condition and an unknown tag; whether
the line is run never depends on it. -/
theorem allHold_strict_iff (c : Conditions) (h : Host) (searchList : Option String)
    (conds : List Condition) :
    (c.Strict h searchList conds ↔ ¬ c.Hides h searchList conds) ∧
    ((∀ conds' : List Condition, conds'.Perm conds →
        SameFate (c.allHold h searchList conds') (c.allHold h searchList conds)) ↔
      ¬ ((∃ cond ∈ conds, c.Unknown cond.tag) ∧ ∃ cond ∈ conds, c.Fails h searchList cond)) ∧
    (c.allHold h searchList conds = .ok true ↔ ∀ cond ∈ conds, c.Holds h searchList cond) ∧
    ∀ (e : Engine) (s t : Session) (inst : Instruction) (conds' : List Condition),
      e.params.conditions = c → Engine.isOverdue s = (false, t) → t.host = h →
      t.environment.value? Session.searchVariable = searchList → inst.conditions = conds →
      conds'.Perm conds →
      ¬ ((∃ cond ∈ conds, c.Unknown cond.tag) ∧ ∃ cond ∈ conds, c.Fails h searchList cond) →
      SameEnd (e.step { inst with conditions := conds' } s) (e.step inst s) := by
  refine ⟨strict_iff, sameFate_iff, ?_, ?_⟩
  · constructor
    · intro met
      have judges := allHold_judges c h searchList conds
      rw [met] at judges
      generalize told : Except.ok true = result at judges
      cases judges with
      | met all => exact all
      | stops => cases told
      | unknown => cases told
    · intro all
      have met := allHold_append conds [] all
      rwa [List.append_nil] at met
  · rintro e s t inst conds' rfl inTime rfl rfl rfl perm apart
    exact SameFate.step inTime (sameFate_iff.mpr apart conds' perm)

/-- An unknown tag behind conditions that hold is told, wherever it stands. -/
theorem allHold_strict_iff_unknownLast :
    ∃ conds : List Condition,
      conds = [⟨false, "linux"⟩, ⟨true, "windows"⟩, ⟨false, "no-such-tag"⟩] ∧
      Conditions.none.Strict (Session.hostOf .empty) Option.none conds ∧
      ∀ inst : Instruction, inst.conditions = conds →
        SameEnd
          ((Engine.plain false).step { inst with conditions := conds.reverse }
            (Session.ofFiles .empty))
          ((Engine.plain false).step inst (Session.ofFiles .empty)) := by
  refine ⟨_, rfl, ?_⟩
  obtain ⟨strict, -, -, line⟩ := allHold_strict_iff Conditions.none (Session.hostOf .empty)
    Option.none [⟨false, "linux"⟩, ⟨true, "windows"⟩, ⟨false, "no-such-tag"⟩]
  have noneFails : ∀ cond ∈ [⟨false, "linux"⟩, ⟨true, "windows"⟩, ⟨false, "no-such-tag"⟩],
      ¬ Conditions.none.Fails (Session.hostOf .empty) Option.none cond := by
    unfold Fails
    decide +kernel
  refine ⟨strict.mpr fun hides => ?_, fun inst conditions => ?_⟩
  · obtain ⟨cond, mem, fails⟩ := hides.fails
    exact noneFails cond mem fails
  · refine line (Engine.plain false) (Session.ofFiles .empty) (Session.ofFiles .empty) inst _ rfl
      rfl rfl ?_ conditions (List.reverse_perm _) ?_
    · rfl
    · rintro ⟨-, cond, mem, fails⟩
      exact noneFails cond mem fails

/-- An unknown tag behind a false condition is not told; with the two exchanged, it is. -/
theorem not_strict_of_hidden :
    Conditions.none.Unknown "no-such-tag" ∧
      Conditions.none.allHold (Session.hostOf .empty) Option.none
        [⟨false, "windows"⟩, ⟨false, "no-such-tag"⟩] = .ok false ∧
      Conditions.none.allHold (Session.hostOf .empty) Option.none
        [⟨false, "no-such-tag"⟩, ⟨false, "windows"⟩] = .error "no-such-tag" ∧
      ¬ Conditions.none.Strict (Session.hostOf .empty) Option.none
        [⟨false, "windows"⟩, ⟨false, "no-such-tag"⟩] := by
  have passed : Conditions.none.allHold (Session.hostOf .empty) Option.none
      [⟨false, "windows"⟩, ⟨false, "no-such-tag"⟩] = .ok false := by decide +kernel
  have unknown : Conditions.none.Unknown "no-such-tag" :=
    (tag?_eq_none_iff (Session.hostOf .empty) Option.none).mp (by decide +kernel)
  refine ⟨unknown, passed, by decide +kernel, fun strict => ?_⟩
  obtain ⟨cond, -, -, refused⟩ := strict.unknown ⟨⟨false, "no-such-tag"⟩, by simp, unknown⟩
  exact absurd (passed.symm.trans refused) nofun

end Conditions
end ScriptSuite
