import ScriptSuite.Proofs.Script.Writing

/-!
Reading back a script that has been written.

`Shaped` is what a script keeps of its source when the data of its files changes: lines that
hold its instructions, names that can be written and read, data that holds no separator. Such
a script is written as lines of which all but those of the last file are known
(`splitLines_toSource`), and is read back if the last file is (`parse_toSource`).
-/

namespace ScriptSuite

open Text

namespace Separator

theorem ofLine_line_append_ending {name : List Char} (h : ofLine (line name) = .named name)
    (ending : Ending) : ofLine (line name ++ ending.chars) = .named name := by
  rw [ofLine_append_blanks _ (blanks_ending ending), h]

theorem not_mem_line {name : List Char} (h : '\n' ∉ name) : '\n' ∉ line name := by
  simp [line, opening, closing, h]

/-- The separator line of a file is read with the ending that it is written with. -/
theorem splitEnding_line_append {name : List Char} (h : '\n' ∉ name) (ending : Ending) :
    splitEnding (line name ++ ending.chars) = (line name, ending) := by
  refine splitEnding_append_chars (not_mem_line h) fun _ => ?_
  simp [line, closing]

end Separator

/-- A file that can be written into an archive: its name is read from its separator, and its
data is a text that holds no separator. -/
structure ArchiveFile.Writable (f : ArchiveFile) : Prop where
  named : Separator.ofLine (Separator.line f.name.toList) = .named f.name.toList
  noFeed : '\n' ∉ f.name.toList
  data : ∃ cs, f.data = encode cs ∧ Separator.occursIn cs = false

/-- A file as it is read back if another follows it. -/
def ArchiveFile.settled (f : ArchiveFile) : ArchiveFile :=
  { f with data := normalizeBytes f.data }

namespace Script

/-- The lines of a file that another follows. -/
def blockLines (f : ArchiveFile) : List (List Char) :=
  headerOf f :: splitLines (normalize (decodeLossy f.data))

theorem closed_headerOf {f : ArchiveFile} (noFeed : '\n' ∉ f.name.toList)
    (ne : f.ending ≠ .bare) : Closed (headerOf f) := by
  have notMem := Separator.not_mem_line noFeed
  rw [headerOf]
  cases hending : f.ending with
  | bare => exact absurd hending ne
  | lineFeed => exact ⟨_, notMem, rfl⟩
  | returnFeed =>
    refine ⟨Separator.line f.name.toList ++ ['\r'], ?_, by simp [Ending.chars]⟩
    simp [notMem]

theorem closed_of_mem_blockLines {f : ArchiveFile} (h : f.Writable) (ne : f.ending ≠ .bare) :
    ∀ raw ∈ blockLines f, Closed raw := by
  refine List.forall_mem_cons.mpr ⟨closed_headerOf h.noFeed ne, ?_⟩
  exact closed_of_mem_splitLines (normalize_closed _)

/-- Lines of which the first is the separator of a file and the others are its data. -/
theorem Archive.ofFile {f : ArchiveFile} (h : f.Writable) {cs : List Char}
    (eq : f.data = encode cs) (clear : Separator.occursIn cs = false)
    {rest : List (List Char)} {files : List ArchiveFile} (archive : Archive rest files) :
    Archive (headerOf f :: splitLines cs ++ rest) (f :: files) := by
  have named := Separator.ofLine_line_append_ending h.named f.ending
  have made := Archive.file named (Separator.occursIn_eq_false_iff.mp clear) archive
  rw [flatten_splitLines, ← eq, Separator.splitEnding_line_append h.noFeed,
    String.ofList_toList] at made
  exact made

/-- A file and the archive after it are an archive again, in which the file is settled. -/
theorem Archive.block {f : ArchiveFile} (h : f.Writable) {rest : List (List Char)}
    {files : List ArchiveFile} (archive : Archive rest files) :
    Archive (blockLines f ++ rest) (f.settled :: files) := by
  obtain ⟨cs, eq, clear⟩ := h.data
  have clear' := (Separator.occursIn_normalize cs).trans clear
  have settled : f.settled.data = encode (normalize cs) := by
    rw [encode_normalize, ← eq, ArchiveFile.settled]
  have same : decodeLossy f.data = cs := by rw [eq, decodeLossy_encode]
  rw [blockLines, same]
  exact Archive.ofFile (f := f.settled) ⟨h.named, h.noFeed, _, settled, clear'⟩ settled clear'
    archive

theorem Archive.blocks {front : List ArchiveFile} (h : ∀ f ∈ front, f.Writable)
    {rest : List (List Char)} {files : List ArchiveFile} (archive : Archive rest files) :
    Archive (front.flatMap blockLines ++ rest) (front.map ArchiveFile.settled ++ files) := by
  induction front with
  | nil => exact archive
  | cons f front ih =>
    obtain ⟨hf, hfront⟩ := List.forall_mem_cons.mp h
    rw [List.flatMap_cons, List.append_assoc, List.map_cons, List.cons_append]
    exact .block hf (ih hfront)

/-- The data of a file that another one follows is written with a line feed at its end. -/
theorem archiveSource_cons (f : ArchiveFile) {rest : List ArchiveFile} (ne : rest ≠ []) :
    archiveSource (f :: rest) =
      headerOf f ++ normalize (decodeLossy f.data) ++ archiveSource rest := by
  cases rest with
  | nil => exact absurd rfl ne
  | cons g rest => rfl

theorem archiveSource_concat (front : List ArchiveFile) (last : ArchiveFile) :
    archiveSource (front ++ [last]) =
      (front.flatMap blockLines).flatten ++ (headerOf last ++ decodeLossy last.data) := by
  induction front with
  | nil => rfl
  | cons f front ih =>
    rw [List.cons_append, archiveSource_cons f (by simp), ih]
    simp [blockLines, flatten_splitLines]

/-- What a script keeps of its source when the data of its files changes. `head` are the
lines before the archive. -/
structure Shaped (head : List (List Char)) (s : Script) : Prop where
  before : Preamble 1 head s.instructions
  text : s.preamble.toList = head.flatten
  lines : Lines head
  closed : s.files ≠ [] → ∀ raw ∈ head, Closed raw
  writable : ∀ f ∈ s.files, f.Writable
  distinct : (s.files.map ArchiveFile.name).Nodup
  ending : ∀ f ∈ s.files.dropLast, f.ending ≠ .bare

/-! ### The shape of a script that has been read -/

/-- Every file of an archive can be written; all but the last have an ending and are read
back as they are, and the last has no data if it lacks an ending. -/
theorem Archive.shape {lines : List (List Char)} {files : List ArchiveFile}
    (h : Archive lines files) (cut : Lines lines) :
    (∀ f ∈ files, f.Writable) ∧
      (∀ f ∈ files.dropLast, f.ending ≠ .bare ∧ f.settled = f) ∧
      ∀ f ∈ files, f.ending = .bare → f.data = [] := by
  induction h with
  | nil => simp
  | @file raw name data rest files named absent archive ih =>
    obtain ⟨writable, inner, bare⟩ := ih cut.right
    have noFeed : '\n' ∉ name := fun mem =>
      cut.noFeed raw (by simp)
        (Separator.mem_of_named ((Separator.ofLine_splitEnding raw).trans named) _ mem)
    have dataLines : splitLines data.flatten = data :=
      splitLines_eq_iff.mpr ⟨Lines.tail cut.left, rfl⟩
    have clear : Separator.occursIn data.flatten = false := by
      rw [Separator.occursIn_eq_false_iff, dataLines]
      exact absent
    refine ⟨List.forall_mem_cons.mpr ⟨⟨?_, ?_, _, rfl, clear⟩, writable⟩, ?_,
      List.forall_mem_cons.mpr ⟨fun eq => ?_, bare⟩⟩
    · rw [String.toList_ofList]
      exact Separator.ofLine_line_of_named named
    · rwa [String.toList_ofList]
    · cases archive with
      | nil => simp
      | file _ _ _ =>
        have closed : ∀ line ∈ raw :: data, Closed line := cut.closed_left (by simp)
        obtain ⟨text, ending, eq, -, ne⟩ := (closed raw List.mem_cons_self).exists_splitEnding
        refine List.forall_mem_cons.mpr ⟨⟨by rwa [eq], ?_⟩, inner⟩
        have same : normalize data.flatten = data.flatten :=
          normalize_eq_self (flatten_closed fun line mem =>
            closed line (List.mem_cons_of_mem _ mem))
        rw [ArchiveFile.settled, ← encode_normalize, same]
    · cases data with
      | nil => rfl
      | cons line data =>
        obtain ⟨text, ending, split, -, ne⟩ :=
          Closed.exists_splitEnding (Lines.closed_head cut (by simp))
        exact absurd eq (by rwa [split])

theorem Archive.ne_nil {lines : List (List Char)} {files : List ArchiveFile}
    (h : Archive lines files) (ne : files ≠ []) : lines ≠ [] := by
  cases h with
  | nil => contradiction
  | file _ _ _ => simp

/-- Whatever is read has a shape that can be written back. -/
theorem shaped_of_parse {source : String} {s : Script} (h : parse source = .ok s) :
    ∃ head, Shaped head s := by
  obtain ⟨head, tail, eq, before, text, archive, distinct⟩ := parse_eq_ok_iff.mp h
  have cut : Lines (head ++ tail) := eq ▸ lines_splitLines source.toList
  obtain ⟨writable, inner, -⟩ := archive.shape cut.right
  exact ⟨head, before, text, cut.left, fun ne => cut.closed_left (archive.ne_nil ne), writable,
    distinct, fun f mem => (inner f mem).1⟩

/-- A script that has been read has no file whose data would change if it is written. -/
theorem settled_of_parse {source : String} {s : Script} (h : parse source = .ok s) :
    (∀ f ∈ s.files.dropLast, f.settled = f) ∧ ∀ f ∈ s.files, f.ending = .bare → f.data = [] := by
  obtain ⟨head, tail, eq, -, -, archive, -⟩ := parse_eq_ok_iff.mp h
  have cut : Lines (head ++ tail) := eq ▸ lines_splitLines source.toList
  obtain ⟨-, inner, bare⟩ := archive.shape cut.right
  exact ⟨fun f mem => (inner f mem).2, bare⟩

/-! ### Reading back -/

/-- A script without an archive is read back. -/
theorem Shaped.parse_toSource_nil {head : List (List Char)} {s : Script} (h : Shaped head s)
    (none : s.files = []) : parse s.toSource = .ok s := by
  refine parse_eq_ok_iff.mpr
    ⟨head, [], ?_, h.before, h.text, none ▸ .nil, h.distinct⟩
  refine splitLines_eq_iff.mpr ⟨by simpa using h.lines, ?_⟩
  rw [toSource, String.toList_append, String.toList_ofList, none, h.text]
  simp [archiveSource]

section

variable {head : List (List Char)} {s : Script} {front : List ArchiveFile} {last : ArchiveFile}

/-- All lines that a script is written as are known if those of the last file are. -/
theorem Shaped.splitLines_toSource (h : Shaped head s) (eq : s.files = front ++ [last])
    {rest : List (List Char)} (cut : Lines rest)
    (flat : rest.flatten = headerOf last ++ decodeLossy last.data) :
    splitLines s.toSource.toList = head ++ (front.flatMap blockLines ++ rest) := by
  refine splitLines_eq_iff.mpr ⟨?_, ?_⟩
  · refine .append (h.closed (by simp [eq])) (.append ?_ cut)
    intro raw mem
    obtain ⟨f, hf, mem⟩ := List.mem_flatMap.mp mem
    exact closed_of_mem_blockLines (h.writable f (by simp [eq, hf]))
      (h.ending f (by simpa [eq] using hf)) raw mem
  · rw [toSource, String.toList_append, String.toList_ofList, h.text, eq, archiveSource_concat,
      ← flat]
    simp

/-- A script is read back if its last file is, under its name. -/
theorem Shaped.parse_toSource (h : Shaped head s) (eq : s.files = front ++ [last])
    {rest : List (List Char)} {last' : ArchiveFile} (cut : Lines rest)
    (flat : rest.flatten = headerOf last ++ decodeLossy last.data)
    (archive : Archive rest [last']) (same : last'.name = last.name) :
    parse s.toSource =
      .ok { s with files := front.map ArchiveFile.settled ++ [last'] } := by
  refine parse_eq_ok_iff.mpr
    ⟨head, front.flatMap blockLines ++ rest, h.splitLines_toSource eq cut flat, h.before,
      h.text, .blocks (fun f hf => h.writable f (by simp [eq, hf])) archive, ?_⟩
  have names : (front.map ArchiveFile.settled ++ [last']).map ArchiveFile.name =
      s.files.map ArchiveFile.name := by
    simp [eq, same, Function.comp_def, ArchiveFile.settled]
  exact names ▸ h.distinct

end

end Script
end ScriptSuite
