import Mathlib.Data.List.Forall2
import ScriptSuite.Proofs.Script.Shape

/-!
Updates of an archive, and what is left of them in the written script.

Texts that are put into files change the data of these files and nothing else
(`Replaced.eq_updated`). Updates put in texts that hold no separator, and the script that they
lead to is read back with all of them, but for a line feed that may be missing at the end of a
text, unless the last separator has no ending: it is then glued to the new text of its file,
which is only read back as it should be if it is made up of line feeds
(`preserved_iff`).
-/

namespace ScriptSuite

open Text

/-- The text that has last been put into the file of that name. -/
def Update.last? (us : List Update) (name : String) : Option String :=
  (us.reverse.find? fun u => u.name == name).map Update.text

/-- The last update of a file wins. -/
theorem Update.last?_concat (us : List Update) (u : Update) (name : String) :
    last? (us ++ [u]) name = if u.name = name then some u.text else last? us name := by
  by_cases h : u.name = name
  · simp [last?, h]
  · simp [last?, h]

theorem Update.exists_of_last? {us : List Update} {name text : String}
    (h : last? us name = some text) : ∃ u ∈ us, u.text = text := by
  obtain ⟨u, found, rfl⟩ := Option.map_eq_some_iff.mp h
  exact ⟨u, List.mem_reverse.mp (List.mem_of_find?_eq_some found), rfl⟩

/-- A file with the text that has last been put into it. -/
def ArchiveFile.updated (us : List Update) (f : ArchiveFile) : ArchiveFile :=
  { f with data := ((Update.last? us f.name).map bytesOf).getD f.data }

theorem ArchiveFile.updated_eq_self {us : List Update} {f : ArchiveFile}
    (h : Update.last? us f.name = none) : f.updated us = f := by
  simp [updated, h]

theorem ArchiveFile.data_updated {us : List Update} {f : ArchiveFile} {text : String}
    (h : Update.last? us f.name = some text) : (f.updated us).data = bytesOf text := by
  simp [updated, h]

namespace Script

/-- Texts that are put into files one after another turn a script into another. -/
inductive Replaced (s : Script) : List Update → Script → Prop where
  | refl : Replaced s [] s
  | put {us : List Update} {t t' : Script} {u : Update} : Replaced s us t →
      t.setFile? u.name (bytesOf u.text) = some t' → Replaced s (us ++ [u]) t'

/-- Updates that are made one after another turn a script into another. No text that they
put into a file holds a separator. -/
inductive Revised (s : Script) : List Update → Script → Prop where
  | refl : Revised s [] s
  | update {us : List Update} {t t' : Script} {u : Update} : Revised s us t →
      Separator.occursIn u.text.toList = false →
      t.setFile? u.name (bytesOf u.text) = some t' → Revised s (us ++ [u]) t'

/-- Updates may be made one after another. -/
theorem Revised.trans {s t r : Script} {us vs : List Update} (h : Revised s us t)
    (h' : Revised t vs r) : Revised s (us ++ vs) r := by
  induction h' with
  | refl => rwa [List.append_nil]
  | update _ clear set ih =>
    rw [← List.append_assoc]
    exact .update ih clear set

/-- No update holds a line that reads as a separator. -/
theorem Revised.clear {s t : Script} {us : List Update} (h : Revised s us t) :
    ∀ u ∈ us, Separator.occursIn u.text.toList = false := by
  induction h with
  | refl => simp
  | update _ clear _ ih =>
    intro u mem
    rcases List.mem_append.mp mem with mem | mem
    · exact ih u mem
    · rwa [List.mem_singleton.mp mem]

theorem Revised.replaced {s t : Script} {us : List Update} (h : Revised s us t) :
    Replaced s us t := by
  induction h with
  | refl => exact .refl
  | update _ _ set ih => exact .put ih set

/-- Texts that are put into files do not touch the instructions. -/
theorem Replaced.instructions {s t : Script} {us : List Update} (h : Replaced s us t) :
    t.instructions = s.instructions := by
  induction h with
  | refl => rfl
  | put _ set ih =>
    rw [setFile?] at set
    split at set
    · rw [← Option.some.inj set, ih]
    · contradiction

/-- Updates leave the instructions alone, so that what is run next does not depend on them. -/
theorem Revised.instructions {s t : Script} {us : List Update} (h : Revised s us t) :
    t.instructions = s.instructions :=
  h.replaced.instructions

theorem replaceIn_eq_map {name : String} {data : Bytes} {files : List ArchiveFile}
    (distinct : (files.map ArchiveFile.name).Nodup) :
    replaceIn name data files =
      files.map fun f => if f.name = name then { f with data := data } else f := by
  induction files with
  | nil => rfl
  | cons f files ih =>
    obtain ⟨notMem, distinct⟩ := List.nodup_cons.mp distinct
    rw [replaceIn, List.map_cons]
    split
    · next eq =>
      congr 1
      refine (List.map_id' files).symm.trans (List.map_congr_left fun g mem => ?_)
      rw [if_neg]
      exact fun same => notMem (List.mem_map.mpr ⟨g, mem, same.trans eq.symm⟩)
    · rw [ih distinct]

/-- Texts that are put into files change the data of these files, and nothing else. -/
theorem Replaced.eq_updated {s t : Script} {us : List Update} (h : Replaced s us t)
    (distinct : (s.files.map ArchiveFile.name).Nodup) :
    t = { s with files := s.files.map (ArchiveFile.updated us) } := by
  induction h with
  | refl =>
    have same : s.files.map (ArchiveFile.updated []) = s.files :=
      (List.map_congr_left fun f _ => ArchiveFile.updated_eq_self rfl).trans (List.map_id' _)
    rw [same]
  | @put us t t' u _ set ih =>
    have names : t.files.map ArchiveFile.name = s.files.map ArchiveFile.name := by
      rw [ih, List.map_map]
      rfl
    rw [setFile?] at set
    split at set
    · rw [← Option.some.inj set, replaceIn_eq_map (names ▸ distinct), ih]
      simp only [List.map_map, Script.mk.injEq, true_and, and_true]
      refine List.map_congr_left fun f _ => ?_
      simp only [Function.comp_apply, ArchiveFile.updated, Update.last?_concat]
      by_cases h : f.name = u.name
      · simp [h]
      · simp [h, Ne.symm h]
    · contradiction

/-- With names of their own, the files after some updates are those of before, each with its last
update. -/
theorem Revised.eq_updated {s t : Script} {us : List Update} (h : Revised s us t)
    (distinct : (s.files.map ArchiveFile.name).Nodup) :
    t = { s with files := s.files.map (ArchiveFile.updated us) } :=
  h.replaced.eq_updated distinct

theorem Revised.files_concat {s t : Script} {us : List Update} (h : Revised s us t)
    (distinct : (s.files.map ArchiveFile.name).Nodup) {front : List ArchiveFile}
    {last : ArchiveFile} (split : s.files = front ++ [last]) :
    t.files = front.map (ArchiveFile.updated us) ++ [last.updated us] := by
  rw [h.eq_updated distinct, split, List.map_append]
  rfl

/-- A script keeps the shape that its source gave it if its files get other data that can be
written. -/
theorem Shaped.map {head : List (List Char)} {s : Script} (h : Shaped head s)
    {change : ArchiveFile → ArchiveFile} (name : ∀ f, (change f).name = f.name)
    (ending : ∀ f, (change f).ending = f.ending)
    (writable : ∀ f ∈ s.files, (change f).Writable) :
    Shaped head { s with files := s.files.map change } := by
  refine ⟨h.before, h.text, h.lines, fun ne => h.closed (by simpa using ne),
    List.forall_mem_map.mpr writable, ?_, ?_⟩
  · have names : ArchiveFile.name ∘ change = ArchiveFile.name := funext name
    rw [List.map_map, names]
    exact h.distinct
  · intro g mem
    rw [← List.map_dropLast] at mem
    obtain ⟨f, hf, rfl⟩ := List.mem_map.mp mem
    rw [ending]
    exact h.ending f hf

/-- The script keeps the shape that its source gave it if no text that has last been put into
a file holds a separator. -/
theorem Shaped.replaced {head : List (List Char)} {s t : Script} {us : List Update}
    (h : Shaped head s) (replaced : Replaced s us t)
    (clear : ∀ name text, Update.last? us name = some text →
      Separator.occursIn text.toList = false) : Shaped head t := by
  have eq := replaced.eq_updated h.distinct
  subst eq
  refine h.map (fun _ => rfl) (fun _ => rfl) fun f mem => ?_
  have writable := h.writable f mem
  refine ⟨writable.named, writable.noFeed, ?_⟩
  cases last : Update.last? us f.name with
  | none =>
    rw [ArchiveFile.updated_eq_self last]
    exact writable.data
  | some text => exact ⟨_, ArchiveFile.data_updated last, clear _ _ last⟩

/-- The updated script keeps the shape that its source gave it. -/
theorem Shaped.revised {head : List (List Char)} {s t : Script} {us : List Update}
    (h : Shaped head s) (revised : Revised s us t) : Shaped head t := by
  refine h.replaced revised.replaced fun name text last => ?_
  obtain ⟨u, mem, rfl⟩ := Update.exists_of_last? last
  exact revised.clear u mem

/-! ### The names of the files -/

/-- The file that a line is the separator of. -/
def fileName? (raw : List Char) : Option String :=
  match Separator.ofLine raw with
  | .named name => some (String.ofList name)
  | _ => none

theorem fileName?_eq_some_iff {raw : List Char} {name : String} :
    fileName? raw = some name ↔ Separator.ofLine raw = .named name.toList := by
  rw [fileName?]
  cases Separator.ofLine raw with
  | absent => simp
  | malformed text => simp
  | named found => simp [← String.toList_inj]

theorem filterMap_fileName?_of_absent {lines : List (List Char)}
    (h : ∀ raw ∈ lines, Separator.ofLine raw = .absent) : lines.filterMap fileName? = [] := by
  refine List.filterMap_eq_nil_iff.mpr fun raw mem => ?_
  rw [fileName?, h raw mem]

/-- The names of an archive are those of its separator lines, in order. -/
theorem Archive.names {lines : List (List Char)} {files : List ArchiveFile}
    (h : Archive lines files) : lines.filterMap fileName? = files.map ArchiveFile.name := by
  induction h with
  | nil => rfl
  | @file raw name data rest files named absent _ ih =>
    have found : fileName? raw = some (String.ofList name) := by rw [fileName?, named]
    rw [List.cons_append, List.filterMap_cons_some found, List.filterMap_append,
      filterMap_fileName?_of_absent absent, ih]
    rfl

/-- The names of the files of a script are those of its separators. -/
theorem names_of_parse {source : String} {s : Script} (h : parse source = .ok s) :
    s.files.map ArchiveFile.name = (splitLines source.toList).filterMap fileName? := by
  obtain ⟨head, tail, eq, before, -, archive, -⟩ := parse_eq_ok_iff.mp h
  rw [eq, List.filterMap_append, filterMap_fileName?_of_absent before.absent, archive.names,
    List.nil_append]

/-- If no name of a file has been lost, the line that begins with the last separator is
still its separator. -/
theorem Shaped.named_of_names {head : List (List Char)} {s r : Script}
    {front : List ArchiveFile} {last : ArchiveFile} (h : Shaped head s)
    (eq : s.files = front ++ [last]) {raw : List Char} {more : List (List Char)}
    (cut : Lines (raw :: more))
    (flat : (raw :: more).flatten = headerOf last ++ decodeLossy last.data)
    (absent : ∀ line ∈ more, Separator.ofLine line = .absent)
    (reads : parse s.toSource = .ok r)
    (same : r.files.map ArchiveFile.name = s.files.map ArchiveFile.name) :
    Separator.ofLine raw = .named last.name.toList := by
  have blocks : Archive (front.flatMap blockLines ++ []) (front.map ArchiveFile.settled ++ []) :=
    .blocks (fun f hf => h.writable f (by simp [eq, hf])) .nil
  have frontNames := blocks.names
  have names := names_of_parse reads
  rw [h.splitLines_toSource eq cut flat, List.filterMap_append, List.filterMap_append,
    filterMap_fileName?_of_absent h.before.absent, List.nil_append, List.filterMap_cons,
    filterMap_fileName?_of_absent absent, same, eq] at names
  simp only [List.append_nil, List.map_map] at frontNames
  rw [frontNames, List.map_append] at names
  have lastName := List.append_cancel_left names
  refine fileName?_eq_some_iff.mp ?_
  cases found : fileName? raw with
  | none => simp [found] at lastName
  | some name => simpa [found] using lastName.symm

/-! ### The last file -/

/-- Two byte sequences are the same up to one line feed at the end of either. -/
def AgreeUpToFeed (as bs : Bytes) : Prop :=
  as = bs ∨ as ++ [feedByte] = bs ∨ bs ++ [feedByte] = as

theorem agreeUpToFeed_normalizeBytes (bs : Bytes) : AgreeUpToFeed (normalizeBytes bs) bs := by
  rw [normalizeBytes]
  split
  · exact .inl rfl
  · exact .inr (.inr rfl)

/-- A line feed that may be added at either end is added to line feeds. -/
theorem forall_eq_of_concat_eq_cons {α : Type} {a b : α} {as : List α}
    (h : as ++ [a] = b :: as) : ∀ c ∈ b :: as, c = a := by
  induction as generalizing b with
  | nil => simpa using h.symm
  | cons c as ih =>
    obtain ⟨rfl, rest⟩ := List.cons.inj h
    exact List.forall_mem_cons.mpr ⟨ih rest c List.mem_cons_self, ih rest⟩

/-- A text that loses characters at its front agrees with what is left only if all of its
characters are line feeds. -/
theorem AgreeUpToFeed.all_feeds {front rest : List Char} (ne : front ≠ [])
    (h : AgreeUpToFeed (encode rest) (encode (front ++ rest))) :
    ∀ c ∈ front ++ rest, c = '\n' := by
  have positive := List.length_pos_of_ne_nil ne
  rw [AgreeUpToFeed, ← encode_feed, ← encode_append, ← encode_append] at h
  rcases h with h | h | h
  · have := congrArg List.length (encode_injective h)
    rw [List.length_append] at this
    omega
  · have eq := encode_injective h
    have := congrArg List.length eq
    simp only [List.length_append, List.length_singleton] at this
    obtain ⟨c, rfl⟩ := List.length_eq_one_iff.mp (show front.length = 1 by omega)
    exact forall_eq_of_concat_eq_cons eq
  · have := congrArg List.length (encode_injective h)
    simp only [List.length_append, List.length_singleton] at this
    omega

/-- The separator of a file without an ending is glued to the first line of its data. -/
theorem lines_glued {f : ArchiveFile} (h : f.Writable) (bare : f.ending = .bare)
    (ne : f.data ≠ []) :
    ∃ first more, splitLines (decodeLossy f.data) = first :: more ∧ first ≠ [] ∧
      Lines ((Separator.line f.name.toList ++ first) :: more) ∧
      ((Separator.line f.name.toList ++ first) :: more).flatten =
        headerOf f ++ decodeLossy f.data ∧
      ∀ raw ∈ more, Separator.ofLine raw = .absent := by
  obtain ⟨cs, eq, clear⟩ := h.data
  have same : decodeLossy f.data = cs := by rw [eq, decodeLossy_encode]
  rw [same]
  obtain ⟨ls, hls⟩ : ∃ ls, splitLines cs = ls := ⟨_, rfl⟩
  have cut := lines_splitLines cs
  have flat := flatten_splitLines cs
  rw [hls] at cut flat
  cases ls with
  | nil => exact absurd (by rw [eq, ← flat]; rfl) ne
  | cons first more =>
    have absent := Separator.occursIn_eq_false_iff.mp clear
    rw [hls] at absent
    refine ⟨first, more, hls, cut.ne_nil first List.mem_cons_self,
      cut.prepend (Separator.not_mem_line h.noFeed), ?_,
      fun raw mem => absent raw (List.mem_cons_of_mem _ mem)⟩
    rw [← flat, headerOf, bare]
    simp [Ending.chars]

/-- The lines that the last file is written as, if its separator has an ending or its data
is made up of line feeds, and the file that is read from them. -/
theorem exists_lines_last {f : ArchiveFile} (h : f.Writable)
    (feeds : f.ending = .bare → ∀ c ∈ decodeLossy f.data, c = '\n') :
    ∃ rest f', Lines rest ∧ rest.flatten = headerOf f ++ decodeLossy f.data ∧
      Archive rest [f'] ∧ f'.name = f.name ∧ AgreeUpToFeed f'.data f.data ∧
      ((f.ending = .bare → f.data = []) → f'.data = f.data) := by
  obtain ⟨cs, eq, clear⟩ := h.data
  have same : decodeLossy f.data = cs := by rw [eq, decodeLossy_encode]
  by_cases easy : f.ending = .bare → f.data = []
  · refine ⟨headerOf f :: splitLines cs, f, ?_, ?_, ?_, rfl, .inl rfl, fun _ => rfl⟩
    · by_cases bare : f.ending = .bare
      · have nil : cs = [] := encode_eq_nil.mp (eq ▸ easy bare)
        rw [nil, headerOf, bare]
        refine .last ?_ ?_
        · simp [Separator.line, Separator.opening]
        · simpa [Ending.chars] using Separator.not_mem_line h.noFeed
      · exact .cons (closed_headerOf h.noFeed bare) (lines_splitLines cs)
    · rw [List.flatten_cons, flatten_splitLines, same]
    · simpa using Archive.ofFile h eq clear .nil
  · obtain ⟨bare, ne⟩ := Classical.not_imp.mp easy
    have feeds := feeds bare
    rw [same] at feeds ⊢
    cases cs with
    | nil => exact absurd eq ne
    | cons c ds =>
      obtain ⟨rfl, more⟩ := List.forall_mem_cons.mp feeds
      have clear' : Separator.occursIn ds = false :=
        Separator.occursIn_eq_false_iff.mpr fun raw mem =>
          Separator.occursIn_eq_false_iff.mp clear raw (by simp [splitLines, mem])
      have h' : ArchiveFile.Writable { f with ending := .lineFeed, data := encode ds } :=
        ⟨h.named, h.noFeed, ds, rfl, clear'⟩
      have moved : ds ++ ['\n'] = '\n' :: ds := by
        rw [List.eq_replicate_of_mem more, ← List.replicate_succ', List.replicate_succ]
      refine ⟨_, { f with ending := .lineFeed, data := encode ds },
        .cons (closed_headerOf h'.noFeed (by simp)) (lines_splitLines ds), ?_,
        by simpa using Archive.ofFile h' rfl clear' .nil, rfl, .inr (.inl ?_),
        fun nil => absurd (nil bare) ne⟩
      · rw [List.flatten_cons, flatten_splitLines, headerOf, headerOf, bare]
        simp [Ending.chars]
      · rw [eq, ← moved, encode_append, encode_feed]

/-! ### What is read back -/

/-- What has become of a file: its data has been kept if it has not been updated, and is
otherwise the text that has last been put into it, up to one line feed at the end. -/
def Carries (us : List Update) (f g : ArchiveFile) : Prop :=
  g.name = f.name ∧
    match Update.last? us f.name with
    | none => g.data = f.data
    | some text => AgreeUpToFeed g.data (bytesOf text)

/-- A text is read as a script with the instructions of `s` and its files, in their order, as
the updates have left them. -/
def Preserved (s : Script) (us : List Update) (source : String) : Prop :=
  ∃ r, parse source = .ok r ∧ r.instructions = s.instructions ∧
    List.Forall₂ (Carries us) s.files r.files

theorem carries_of_agree {us : List Update} {f g : ArchiveFile} (name : g.name = f.name)
    (agree : AgreeUpToFeed g.data (f.updated us).data)
    (kept : Update.last? us f.name = none → g.data = f.data) : Carries us f g := by
  refine ⟨name, ?_⟩
  cases last : Update.last? us f.name with
  | none => exact kept last
  | some text => rwa [ArchiveFile.data_updated last] at agree

theorem names_of_carries {us : List Update} {fs gs : List ArchiveFile}
    (h : List.Forall₂ (Carries us) fs gs) :
    gs.map ArchiveFile.name = fs.map ArchiveFile.name := by
  induction h with
  | nil => rfl
  | cons carries _ ih => rw [List.map_cons, List.map_cons, carries.1, ih]

section

variable {source : String} {s t : Script} {us : List Update}

/-- If the last separator has an ending, or the data of its file is made up of line feeds,
all updates are read back from the written script. -/
theorem preserved_of_feeds (h : parse source = .ok s) (revised : Revised s us t)
    (feeds : ∀ f ∈ t.files, f.ending = .bare → ∀ c ∈ decodeLossy f.data, c = '\n') :
    Preserved s us t.toSource := by
  obtain ⟨head, shaped⟩ := shaped_of_parse h
  obtain ⟨settled, bare⟩ := settled_of_parse h
  have shaped' := shaped.revised revised
  have eq := revised.eq_updated shaped.distinct
  rcases List.eq_nil_or_concat' s.files with none | ⟨front, last, split⟩
  · have none' : t.files = [] := by rw [eq, none]; rfl
    refine ⟨t, shaped'.parse_toSource_nil none', by rw [eq], ?_⟩
    rw [none, none']
    exact .nil
  · have split' := revised.files_concat shaped.distinct split
    obtain ⟨rest, last', cut, flat, archive, name, agree, kept⟩ :=
      exists_lines_last (shaped'.writable (last.updated us) (by simp [split']))
        (feeds _ (by simp [split']))
    have reads := shaped'.parse_toSource split' cut flat archive name
    refine ⟨_, reads, by rw [eq], ?_⟩
    rw [split, List.map_map]
    refine List.rel_append ?_ (.cons ?_ .nil)
    · refine List.forall₂_map_right_iff.mpr (List.forall₂_same.mpr fun f mem => ?_)
      refine carries_of_agree rfl (agreeUpToFeed_normalizeBytes _) fun keep => ?_
      have same := congrArg ArchiveFile.data (settled f (by simp [split, mem]))
      simpa [ArchiveFile.updated_eq_self keep] using same
    · refine carries_of_agree name agree fun keep => ?_
      rw [ArchiveFile.updated_eq_self keep] at kept
      exact kept (bare last (by simp [split]))

/-- A file that has data but no ending is the last one, and has been updated. -/
theorem exists_update_of_bare (h : parse source = .ok s) (revised : Revised s us t)
    {f : ArchiveFile} (mem : f ∈ t.files) (hending : f.ending = .bare) (ne : f.data ≠ []) :
    ∃ front last text, s.files = front ++ [last] ∧ f = last.updated us ∧
      Update.last? us last.name = some text := by
  obtain ⟨head, shaped⟩ := shaped_of_parse h
  obtain ⟨-, bare⟩ := settled_of_parse h
  rcases List.eq_nil_or_concat' s.files with none | ⟨front, last, split⟩
  · simp [revised.eq_updated shaped.distinct, none] at mem
  · have split' := revised.files_concat shaped.distinct split
    have isLast : f = last.updated us := by
      rw [split', List.mem_append, List.mem_singleton] at mem
      rcases mem with mem | rfl
      · exact absurd hending ((shaped.revised revised).ending f (by simpa [split'] using mem))
      · rfl
    subst isLast
    obtain ⟨text, put⟩ : ∃ text, Update.last? us last.name = some text := by
      refine Option.ne_none_iff_exists'.mp fun keep => ne ?_
      rw [ArchiveFile.updated_eq_self keep] at hending ⊢
      exact bare last (by simp [split]) hending
    exact ⟨front, last, text, split, rfl, put⟩

/-- If text has been glued to the last separator, what has been put into its file is only
read back if it is made up of line feeds. -/
theorem feeds_of_preserved (h : parse source = .ok s) (revised : Revised s us t)
    (preserved : Preserved s us t.toSource) :
    ∀ f ∈ t.files, f.ending = .bare → ∀ c ∈ decodeLossy f.data, c = '\n' := by
  intro f mem hending
  by_cases empty : f.data = []
  · simp [empty, decodeLossy_eq_nil.mpr rfl]
  obtain ⟨r, reads, -, carries⟩ := preserved
  obtain ⟨head, shaped⟩ := shaped_of_parse h
  obtain ⟨front, last, text, split, rfl, put⟩ := exists_update_of_bare h revised mem hending empty
  have shaped' := shaped.revised revised
  have split' := revised.files_concat shaped.distinct split
  -- its separator is still read, since no name has been lost
  obtain ⟨first, more, lines, ne, cut, flat, absent⟩ :=
    lines_glued (shaped'.writable _ mem) hending empty
  have named := shaped'.named_of_names split' cut flat absent reads <| by
    rw [names_of_carries carries, revised.eq_updated shaped.distinct, List.map_map]
    rfl
  -- so the file has lost the line that its separator has taken
  have archive := Archive.file named absent .nil
  rw [List.append_nil] at archive
  have again := shaped'.parse_toSource split' cut flat archive (String.ofList_toList ..)
  rw [Except.ok.inj (reads.symm.trans again), split] at carries
  have tail := List.forall₂_drop_append _ _ _ carries
  simp only [List.length_map, List.drop_left, List.forall₂_cons, List.Forall₂.nil, and_true]
    at tail
  have agree := tail.2
  have whole := flatten_splitLines (decodeLossy (last.updated us).data)
  rw [lines, List.flatten_cons] at whole
  have written : bytesOf text = encode (first ++ more.flatten) := by
    rw [whole, ArchiveFile.data_updated put, bytesOf, decodeLossy_encode]
  rw [put] at agree
  rw [← whole]
  exact AgreeUpToFeed.all_feeds ne (written ▸ agree)

/-- All updates are read back from the written script if and only if the last separator has an
ending or the data of its file is made up of line feeds. -/
theorem preserved_iff (h : parse source = .ok s) (revised : Revised s us t) :
    Preserved s us t.toSource ↔
      ∀ f ∈ t.files, f.ending = .bare → ∀ c ∈ decodeLossy f.data, c = '\n' :=
  ⟨feeds_of_preserved h revised, preserved_of_feeds h revised⟩

end

end Script
end ScriptSuite
