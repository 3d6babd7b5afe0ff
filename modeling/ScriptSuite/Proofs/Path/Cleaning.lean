import Mathlib.Data.List.Basic
import Mathlib.Data.List.Flatten
import ScriptSuite.Proofs.Path.Joining

/-!
What clean paths say.

An absolute path is cleaned by writing down the names of the place that it leads to, and these are
read again as they are (`components_clean`). A path without steps up has the same steps when it is
clean (`components_of_noUp`), and its text is no longer for it, so that it still leads to where it
has led (`placeFrom_clean`).
-/

namespace ScriptSuite

namespace Text

theorem joinWith_cons (sep : Char) (first : List Char) (parts : List (List Char)) :
    joinWith [sep] (first :: parts) = first ++ parts.flatMap (sep :: ·) := by
  induction parts generalizing first with
  | nil => simp [joinWith]
  | cons next rest ih =>
    rw [joinWith, ih, List.flatMap_cons, List.append_assoc]
    · rfl
    · exact List.cons_ne_nil _ _

/-- A text without a separator is one part. -/
theorem splitAtEach_of_not_mem {sep : Char} {cs : List Char} (clear : sep ∉ cs) :
    splitAtEach sep cs = [cs] := by
  induction cs with
  | nil => rfl
  | cons c cs ih =>
    obtain ⟨other, clear⟩ := not_or.mp (mt List.mem_cons.mpr clear)
    rw [splitAtEach, if_neg (Ne.symm other), ih clear]

/-- Parts that are led by separators, and hold none, are found again behind them. -/
theorem splitAtEach_flatMap {sep : Char} {first : List Char} {parts : List (List Char)}
    (noSep : sep ∉ first) (clear : ∀ part ∈ parts, sep ∉ part) :
    splitAtEach sep (first ++ parts.flatMap (sep :: ·)) = first :: parts := by
  induction parts generalizing first with
  | nil => rw [List.flatMap_nil, List.append_nil, splitAtEach_of_not_mem noSep]
  | cons next rest ih =>
    obtain ⟨noSep', clear⟩ := List.forall_mem_cons.mp clear
    rw [List.flatMap_cons, List.cons_append, splitAtEach_append, ih noSep' clear,
      splitAtEach_of_not_mem noSep]
    rfl

/-- A text is its first part and the others, each led by a separator; no part holds one. -/
theorem exists_splitAtEach (sep : Char) (cs : List Char) :
    ∃ first parts, splitAtEach sep cs = first :: parts ∧
      cs = first ++ parts.flatMap (sep :: ·) ∧ ∀ part ∈ first :: parts, sep ∉ part := by
  induction cs with
  | nil => exact ⟨[], [], rfl, rfl, by simp⟩
  | cons c cs ih =>
    obtain ⟨first, parts, split, text, clear⟩ := ih
    rw [splitAtEach, split]
    by_cases same : c = sep
    · rw [if_pos same]
      refine ⟨[], first :: parts, rfl, ?_, List.forall_mem_cons.mpr ⟨List.not_mem_nil, clear⟩⟩
      rw [List.flatMap_cons, List.nil_append, List.cons_append, ← text, same]
    · rw [if_neg same]
      obtain ⟨noSep, clear⟩ := List.forall_mem_cons.mp clear
      refine ⟨c :: first, parts, rfl, congrArg (c :: ·) text, List.forall_mem_cons.mpr ⟨?_, clear⟩⟩
      rintro (- | ⟨-, mem⟩)
      · exact same rfl
      · exact noSep mem

end Text

namespace Path

open Text (splitAtEach)

/-! ### Names -/

/-- A text that stands for a step of its own in a path. Only a name that is a text can be one, for
no segment stands for a raw name. -/
structure IsName (name : EntryName) : Prop where
  step : segment? name.shown = some (.name name)
  noSlash : '/' ∉ name.shown

theorem segment?_eq_some {segment : List Char} {c : Component}
    (step : segment? segment = some c) : c = .up ∨ c = .name segment := by
  rw [segment?] at step
  split at step
  · cases step
  · split at step
    · cases step
      exact .inl rfl
    · cases step
      exact .inr rfl

theorem IsName.ne_nil {name : EntryName} (h : IsName name) : name.shown ≠ [] := by
  intro none
  have step := h.step
  rw [none] at step
  cases step

/-- Names stand for themselves among the segments of a path. -/
theorem filterMap_names {names : Place} (all : ∀ name ∈ names, IsName name) :
    (names.map EntryName.shown).filterMap segment? = names.map .name := by
  rw [List.filterMap_map, ← List.filterMap_eq_map]
  exact List.filterMap_congr fun name mem => (all name mem).step

theorem isName_of_mem_components {p : Path} {name : EntryName}
    (mem : Component.name name ∈ p.components) : IsName name := by
  have step : Component.name name ∈ (splitAtEach '/' p.chars).filterMap segment? := by
    rw [components, componentsOf, List.mem_append] at mem
    refine mem.resolve_left ?_
    split
    · simp
    · split <;> simp
  obtain ⟨segment, among, names⟩ := List.mem_filterMap.mp step
  obtain same | same := segment?_eq_some names <;> cases same
  obtain ⟨first, parts, split, -, clear⟩ := Text.exists_splitAtEach '/' p.chars
  exact ⟨names, clear segment (split ▸ among)⟩

theorem mem_foldl_leads {steps : List Component} {place : Place} {name : EntryName}
    (mem : name ∈ steps.foldl Component.leads place) : name ∈ place ∨ .name name ∈ steps := by
  induction steps generalizing place with
  | nil => exact .inl mem
  | cons step rest ih =>
    rw [List.foldl_cons] at mem
    rcases ih mem with before | later
    · cases step with
      | root => cases before
      | here => exact .inl before
      | up => exact .inl (List.dropLast_subset place before)
      | name entry =>
        rcases List.mem_append.mp before with before | last
        · exact .inl before
        · rw [List.mem_singleton.mp last]
          exact .inr List.mem_cons_self
    · exact .inr (List.mem_cons_of_mem step later)

/-- A path leads to places whose names are all texts. -/
theorem isName_of_mem_landing {p : Path} {name : EntryName} (mem : name ∈ p.landing []) :
    IsName name := by
  rcases mem_foldl_leads mem with none | step
  · cases none
  · exact isName_of_mem_components step

/-- The names of a place lead there from the root. -/
theorem foldl_leads_names (place names : Place) :
    (names.map Component.name).foldl Component.leads place = place ++ names := by
  induction names generalizing place with
  | nil => exact (List.append_nil place).symm
  | cons name rest ih =>
    rw [List.map_cons, List.foldl_cons, Component.leads, ih, List.append_assoc]
    rfl

/-- Names that are joined lead to the place that they make up. -/
theorem landing_joinWith {names : Place} (all : ∀ name ∈ names, IsName name) :
    (Path.mk (String.ofList (Text.joinWith ['/'] (names.map EntryName.shown)))).landing [] =
      names := by
  cases names with
  | nil => rfl
  | cons name rest =>
    obtain ⟨named, others⟩ := List.forall_mem_cons.mp all
    have split : splitAtEach '/' (Text.joinWith ['/'] ((name :: rest).map EntryName.shown)) =
        (name :: rest).map EntryName.shown := by
      rw [List.map_cons, Text.joinWith_cons]
      exact Text.splitAtEach_flatMap named.noSlash
        (List.forall_mem_map.mpr fun part mem => (others part mem).noSlash)
    have relative :
        (Text.joinWith ['/'] ((name :: rest).map EntryName.shown)).head? ≠ some '/' := by
      rw [List.map_cons, Text.joinWith_cons, List.head?_append_of_ne_nil _ named.ne_nil]
      exact fun slash => named.noSlash (List.mem_of_mem_head? slash)
    obtain ⟨lead, dot, steps⟩ := exists_componentsOf_of_relative relative
    rw [landing, components, chars, String.toList_ofList, steps, split, filterMap_names all,
      List.foldl_append, foldl_leads_names]
    rcases dot with rfl | rfl <;> rfl

/-! ### The steps of a clean path -/

/-- The steps that are left when steps up have taken back others are those to the place, last
step first. -/
theorem foldl_cleanStep (steps : List Component) (place : Place) :
    steps.foldl cleanStep (place.reverse.map .name ++ [.root]) =
      (steps.foldl Component.leads place).reverse.map .name ++ [.root] := by
  induction steps generalizing place with
  | nil => rfl
  | cons step rest ih =>
    rw [List.foldl_cons, List.foldl_cons]
    cases step with
    | root => exact ih []
    | here => exact ih place
    | up =>
      rcases List.eq_nil_or_concat place with rfl | ⟨front, name, rfl⟩
      · exact ih []
      · simp only [Component.leads, List.concat_eq_append, List.dropLast_concat]
        rw [← ih, List.reverse_append]
        rfl
    | name entry =>
      rw [Component.leads, ← ih, List.reverse_append]
      rfl

/-- The steps of a cleaned absolute path are those of the place that it leads to. -/
theorem cleanComponents_eq {p : Path} (absolute : p.isAbsolute = true) :
    cleanComponents p.components = .root :: (p.landing []).map .name := by
  obtain ⟨steps, starts⟩ := exists_components_of_isAbsolute absolute
  have stack := foldl_cleanStep steps []
  simp only [List.reverse_nil, List.map_nil, List.nil_append] at stack
  rw [cleanComponents, landing, starts, List.foldl_cons, List.foldl_cons, cleanStep, stack,
    Component.leads]
  simp

/-- The text of names below the root. -/
theorem foldl_joinChars_names {names : Place} (text : List Char)
    (ne : text ≠ []) (noSlash : text.getLast? ≠ some '/') (all : ∀ name ∈ names, IsName name) :
    (names.map Component.name).foldl (fun acc c => joinChars acc c.text) text =
      text ++ (names.map EntryName.shown).flatMap ('/' :: ·) := by
  induction names generalizing text with
  | nil => exact (List.append_nil text).symm
  | cons name rest ih =>
    obtain ⟨isName, all⟩ := List.forall_mem_cons.mp all
    have joined : joinChars text name.shown = text ++ '/' :: name.shown := by
      have relative : name.shown.head? ≠ some '/' := fun slash =>
        isName.noSlash (List.mem_of_mem_head? slash)
      simp [joinChars, relative, ne, noSlash]
    have last : (text ++ '/' :: name.shown).getLast? ≠ some '/' := by
      obtain ⟨front, c, split⟩ := (List.eq_nil_or_concat name.shown).resolve_left isName.ne_nil
      rw [split, List.concat_eq_append, ← List.cons_append, ← List.append_assoc,
        List.getLast?_concat]
      rintro ⟨⟩
      exact isName.noSlash (by simp [split])
    rw [List.map_cons, List.foldl_cons, Component.text, joined,
      ih _ (List.append_ne_nil_of_right_ne_nil _ (List.cons_ne_nil _ _)) last all,
      List.map_cons, List.flatMap_cons, List.append_assoc]

theorem textOf_names {names : Place} (ne : names ≠ []) (all : ∀ name ∈ names, IsName name) :
    textOf (.root :: names.map .name) = (names.map EntryName.shown).flatMap ('/' :: ·) := by
  obtain ⟨name, rest, rfl⟩ := List.exists_cons_of_ne_nil ne
  obtain ⟨isName, all⟩ := List.forall_mem_cons.mp all
  have relative : name.shown.head? ≠ some '/' := fun slash =>
    isName.noSlash (List.mem_of_mem_head? slash)
  have joined : joinChars (joinChars [] ['/']) name.shown = '/' :: name.shown := by
    simp [joinChars, relative]
  have last : ('/' :: name.shown).getLast? ≠ some '/' := by
    rw [List.getLast?_cons_of_ne_nil isName.ne_nil]
    exact fun slash => isName.noSlash (List.mem_of_mem_getLast? slash)
  rw [textOf, List.map_cons, List.foldl_cons, List.foldl_cons, Component.text, Component.text,
    joined, foldl_joinChars_names _ (List.cons_ne_nil _ _) last all, List.map_cons,
    List.flatMap_cons]

/-- The text of a clean path: the names of the place, each led by a slash. -/
theorem chars_clean {p : Path} (absolute : p.isAbsolute = true) :
    p.clean.chars =
      if p.landing [] = [] then ['/']
      else ((p.landing []).map EntryName.shown).flatMap ('/' :: ·) := by
  rw [clean, ofComponents, chars, String.toList_ofList, cleanComponents_eq absolute]
  split
  · next none =>
    rw [none]
    rfl
  · next ne => exact textOf_names ne fun _ mem => isName_of_mem_landing mem

theorem isAbsolute_clean {p : Path} (absolute : p.isAbsolute = true) :
    p.clean.isAbsolute = true := by
  rw [isAbsolute_iff, chars_clean absolute]
  split
  · exact ⟨[], rfl⟩
  · next ne =>
    obtain ⟨name, rest, names⟩ := List.exists_cons_of_ne_nil ne
    exact ⟨_, by rw [names, List.map_cons, List.flatMap_cons, List.cons_append]⟩

/-- The steps of an absolute path. -/
theorem components_of_isAbsolute {p : Path} (absolute : p.isAbsolute = true) :
    p.components = .root :: (splitAtEach '/' p.chars).filterMap segment? := by
  rw [isAbsolute] at absolute
  rw [components, componentsOf]
  simp only [absolute, if_true]
  rfl

theorem splitAtEach_clean {p : Path} (absolute : p.isAbsolute = true) (ne : p.landing [] ≠ []) :
    splitAtEach '/' p.clean.chars = [] :: (p.landing []).map EntryName.shown := by
  rw [chars_clean absolute, if_neg ne]
  exact Text.splitAtEach_flatMap List.not_mem_nil
    (List.forall_mem_map.mpr fun _ mem => (isName_of_mem_landing mem).noSlash)

/-- A clean path says where the path leads to. -/
theorem components_clean {p : Path} (absolute : p.isAbsolute = true) :
    p.clean.components = .root :: (p.landing []).map .name := by
  rw [components_of_isAbsolute (isAbsolute_clean absolute)]
  by_cases none : p.landing [] = []
  · rw [chars_clean absolute, if_pos none, none]
    rfl
  · rw [splitAtEach_clean absolute none, List.cons.injEq]
    refine ⟨rfl, ?_⟩
    rw [List.filterMap_cons_none (by rfl)]
    exact filterMap_names fun name mem => isName_of_mem_landing mem

/-- Segments that make no steps up are names or do not count. -/
theorem exists_names {segments : List (List Char)}
    (noUp : .up ∉ segments.filterMap segment?) :
    ∃ names : Place, segments.filterMap segment? = names.map .name ∧
      (names.map EntryName.shown).Sublist segments := by
  induction segments with
  | nil => exact ⟨[], rfl, .slnil⟩
  | cons segment rest ih =>
    cases step : segment? segment with
    | none =>
      rw [List.filterMap_cons_none step] at noUp ⊢
      obtain ⟨names, steps, sub⟩ := ih noUp
      exact ⟨names, steps, sub.cons segment⟩
    | some c =>
      rw [List.filterMap_cons_some step] at noUp ⊢
      obtain ⟨notUp, noUp⟩ := not_or.mp (mt List.mem_cons.mpr noUp)
      obtain ⟨names, steps, sub⟩ := ih noUp
      obtain rfl := (segment?_eq_some step).resolve_left (Ne.symm notUp)
      exact ⟨.text segment :: names, by rw [steps, List.map_cons], sub.cons_cons segment⟩

/-- Without steps up, the names of the place are the segments that count. -/
theorem landing_of_noUp {p : Path} (absolute : p.isAbsolute = true)
    (noUp : .up ∉ p.components) :
    p.components = .root :: (p.landing []).map .name ∧
      ((p.landing []).map EntryName.shown).Sublist (splitAtEach '/' p.chars) := by
  have steps := components_of_isAbsolute absolute
  have below : .up ∉ (splitAtEach '/' p.chars).filterMap segment? := by
    rw [steps] at noUp
    exact fun up => noUp (List.mem_cons_of_mem _ up)
  obtain ⟨names, named, sub⟩ := exists_names below
  have landing : p.landing [] = names := by
    rw [Path.landing, steps, named, List.foldl_cons, Component.leads, foldl_leads_names]
    rfl
  rw [landing]
  exact ⟨by rw [steps, named], sub⟩

/-- Cleaning leaves no steps up in an absolute path. -/
theorem noUp_clean {p : Path} (absolute : p.isAbsolute = true) : .up ∉ p.clean.components := by
  simp [components_clean absolute]

/-- Cleaning does not change where an absolute path leads to. -/
theorem landing_clean {p : Path} (absolute : p.isAbsolute = true) :
    p.clean.landing [] = p.landing [] := by
  rw [landing, components_clean absolute, List.foldl_cons, Component.leads, foldl_leads_names,
    List.nil_append]

theorem isAbsolute_of_components {p : Path} {steps : List Component}
    (starts : p.components = .root :: steps) : p.isAbsolute = true := by
  by_contra relative
  have notRoot : p.chars.head? ≠ some '/' := fun slash => relative (beq_iff_eq.mpr slash)
  obtain ⟨lead, dot, split⟩ := exists_componentsOf_of_relative notRoot
  rw [components, split] at starts
  rcases dot with rfl | rfl
  · have step : Component.root ∈ (splitAtEach '/' p.chars).filterMap segment? := by
      rw [List.nil_append] at starts
      exact starts ▸ List.mem_cons_self
    obtain ⟨segment, -, isRoot⟩ := List.mem_filterMap.mp step
    obtain same | same := segment?_eq_some isRoot <;> cases same
  · cases starts

/-- A name that stays below adds no steps up to the path in front of it. -/
theorem up_mem_join_iff {p : Path} {name : String} (ne : p.chars ≠ [])
    (stays : (Path.mk name).components.all Session.staysBelow = true) :
    .up ∈ (p.join name).components ↔ .up ∈ p.components := by
  have relative := relative_of_stays stays
  rw [components, componentsOf, List.all_append, Bool.and_eq_true] at stays
  have noUp : .up ∉ (splitAtEach '/' name.toList).filterMap segment? :=
    fun up => Bool.false_ne_true (List.all_eq_true.mp stays.2 .up up)
  rw [components_join ne relative, List.mem_append, or_iff_left noUp]

/-! ### Paths below others -/

theorem dropComponents?_eq_some_iff {lead steps rest : List Component} :
    dropComponents? lead steps = some rest ↔ steps = lead ++ rest := by
  induction lead generalizing steps with
  | nil => exact Option.some_inj
  | cons a lead ih =>
    cases steps with
    | nil => simp [dropComponents?]
    | cons c steps =>
      rw [dropComponents?, List.cons_append, List.cons.injEq]
      by_cases same : a = c
      · rw [if_pos same, ih, same, and_iff_right rfl]
      · rw [if_neg same]
        exact iff_of_false nofun fun h => same h.1.symm

theorem below?_eq_some_iff {p base : Path} {steps : List Component} :
    p.below? base = some steps ↔ p.components = base.components ++ steps :=
  dropComponents?_eq_some_iff

/-- A path is within another if its steps start with the steps of that. -/
theorem isWithin_iff {p base : Path} :
    p.isWithin base = true ↔ base.components <+: p.components := by
  simp only [isWithin, Option.isSome_iff_exists, below?_eq_some_iff]
  exact ⟨fun ⟨steps, eq⟩ => ⟨steps, eq.symm⟩, fun ⟨steps, eq⟩ => ⟨steps, eq.symm⟩⟩

/-- A path without steps up has all clean paths below it that lead below where it leads, and one
with steps up has none. -/
theorem isWithin_clean_iff {p base : Path} (absolute : p.isAbsolute = true)
    (baseAbsolute : base.isAbsolute = true) (below : base.landing [] <+: p.landing []) :
    p.clean.isWithin base = true ↔ .up ∉ base.components := by
  rw [isWithin_iff]
  constructor
  · intro lead up
    exact noUp_clean absolute (lead.subset up)
  · intro noUp
    rw [(landing_of_noUp baseAbsolute noUp).1, components_clean absolute]
    exact List.cons_prefix_cons.mpr ⟨rfl, below.map _⟩

/-! ### Clean paths on a host -/

theorem chars_clean_sublist {p : Path} (absolute : p.isAbsolute = true)
    (noUp : .up ∉ p.components) : p.clean.chars.Sublist p.chars := by
  obtain ⟨-, sub⟩ := landing_of_noUp absolute noUp
  obtain ⟨rest, starts⟩ := isAbsolute_iff.mp absolute
  rw [chars_clean absolute]
  split
  · rw [starts]
    exact List.singleton_sublist.mpr List.mem_cons_self
  · obtain ⟨first, parts, split, text, -⟩ := Text.exists_splitAtEach '/' p.chars
    rw [split] at sub
    have none : first = [] := by
      rw [starts, splitAtEach, if_pos rfl] at split
      exact (List.cons.inj split).1.symm
    subst none
    have names : ((p.landing []).map EntryName.shown).Sublist parts := by
      refine (List.sublist_cons_iff.mp sub).resolve_right ?_
      rintro ⟨rest, names, -⟩
      obtain ⟨name, mem, none⟩ := List.mem_map.mp (names ▸ List.mem_cons_self)
      exact (isName_of_mem_landing mem).ne_nil none
    rw [text]
    exact names.flatMap _

/-- Cleaning makes no path too long that has not been so before. -/
theorem isTooLong_clean {p : Path} (absolute : p.isAbsolute = true) (noUp : .up ∉ p.components)
    (ne : p.landing [] ≠ []) (fits : p.isTooLong = false) : p.clean.isTooLong = false := by
  obtain ⟨-, sub⟩ := landing_of_noUp absolute noUp
  rw [isTooLong, Bool.or_eq_false_iff, decide_eq_false_iff_not, List.any_eq_false] at fits ⊢
  obtain ⟨text, segments⟩ := fits
  have shorter : byteLength p.clean.chars ≤ byteLength p.chars :=
    ((chars_clean_sublist absolute noUp).flatMap _).length_le
  refine ⟨fun long => text (Nat.lt_of_lt_of_le long shorter), ?_⟩
  rw [splitAtEach_clean absolute ne]
  exact List.forall_mem_cons.mpr ⟨by decide, fun name mem => segments name (sub.subset mem)⟩

/-- A clean path that leads somewhere but to the root may denote a file. -/
theorem wantsFolder_clean {p : Path} (absolute : p.isAbsolute = true) (ne : p.landing [] ≠ []) :
    p.clean.wantsFolder = false := by
  obtain ⟨front, last, names⟩ := (List.eq_nil_or_concat (p.landing [])).resolve_left ne
  have named : IsName last := isName_of_mem_landing (p := p) (by simp [names])
  rw [wantsFolder, splitAtEach_clean absolute ne, names, List.concat_eq_append, List.map_append,
    ← List.cons_append, List.map_singleton, List.getLast?_concat]
  have notDot : last.shown ≠ ['.'] := by
    intro dot
    have step := named.step
    rw [dot] at step
    cases step
  simp [named.ne_nil, notDot]

/-- A path without steps up still leads to where it has led when it is clean. -/
theorem placeFrom_clean {p : Path} {root : Node} {folder place : Place}
    (absolute : p.isAbsolute = true) (noUp : .up ∉ p.components) (ne : p.landing [] ≠ [])
    (found : root.placeFrom folder p = .ok place) :
    root.placeFrom folder p.clean = .ok place := by
  obtain ⟨admitted, followed, -⟩ := Node.placeFrom_eq_ok_iff.mp found
  have sub := chars_clean_sublist absolute noUp
  have same : p.clean.components = p.components :=
    (components_clean absolute).trans (landing_of_noUp absolute noUp).1.symm
  refine Node.placeFrom_eq_ok_iff.mpr ⟨⟨?_, ?_, ?_⟩, ?_, fun _ _ => wantsFolder_clean absolute ne⟩
  · have noNull := List.any_eq_false.mp admitted.noNull
    exact List.any_eq_false.mpr fun c mem => noNull c (sub.subset mem)
  · refine Bool.eq_false_iff.mpr fun empty => ?_
    rw [Location.isEmpty, String.isEmpty_iff, ← String.toList_eq_nil_iff] at empty
    exact chars_ne_nil (isAbsolute_clean absolute) empty
  · exact isTooLong_clean absolute noUp ne admitted.short
  · exact (congrArg (root.follow folder) same).trans followed

end Path
end ScriptSuite
