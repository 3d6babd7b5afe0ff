import ScriptSuite.Yaml.Token.Lexer

/-!
Trees of YAML documents.

The tree of a document is read off its tokens; a reference stands for the tree that its
anchor marks, which has to be complete by then.
-/

namespace ScriptSuite.Yaml

/-- A tree. What is missing in a document is an empty plain scalar. -/
inductive Node where
  | scalar (tag : Option String) (text : String) (style : Style)
  | sequence (items : List Node)
  | mapping (entries : List (Node × Node))
  deriving Inhabited

/-- What is missing. -/
def Node.missing : Node := .scalar none "" .plain

/-- What is known at a place of a document: the handles of tags, the trees that have been
marked, the last mark first, and the tokens that follow. -/
structure Reader where
  handles : List String
  anchors : List (String × Node)
  rest : List Token
  deriving Inhabited

namespace Reader

/-- Goes on by a token. -/
def drop (r : Reader) : Reader := { r with rest := r.rest.drop 1 }

/-- The full name of a tag. The names that start with two exclamation marks are those of
the format itself, whatever a directive says: no other meaning of them is asked for. -/
def tagName (r : Reader) (handle suffix : String) : Except Flaw String :=
  if handle = "" then .ok suffix
  else if handle = "!" then .ok ("!" ++ suffix)
  else if handle = "!!" then .ok ("tag:yaml.org,2002:" ++ suffix)
  else if r.handles.contains handle then .ok (handle ++ suffix)
  else .error .unknownTag

/-- An anchor and a tag in front of a tree; each stands there at most once. -/
structure Properties where
  anchor : Option String
  tag : Option String

/-- Reads what stands in front of a tree. -/
def readProperties (r : Reader) : Except Flaw (Properties × Reader) :=
  match r.rest with
  | .anchor name :: .tag handle suffix :: rest => do
    return (⟨some name, some (← r.tagName handle suffix)⟩, { r with rest := rest })
  | .tag handle suffix :: .anchor name :: rest => do
    return (⟨some name, some (← r.tagName handle suffix)⟩, { r with rest := rest })
  | .anchor name :: rest => .ok (⟨some name, none⟩, { r with rest := rest })
  | .tag handle suffix :: rest => do
    return (⟨none, some (← r.tagName handle suffix)⟩, { r with rest := rest })
  | _ => .ok (⟨none, none⟩, r)

/-- Marks a tree. -/
def mark (r : Reader) (p : Properties) (n : Node) : Reader :=
  match p.anchor with
  | some name => { r with anchors := (name, n) :: r.anchors }
  | none => r

/-- Whether one of the given tokens follows. -/
def isAt (r : Reader) (tokens : List Token) : Bool :=
  match r.rest with
  | t :: _ => tokens.contains t
  | [] => true

mutual

/-- Reads a tree. In a block, trees may span lines; `withEntries` allows a sequence that is
not indented. The fuel bounds the number of tokens that are looked at. -/
def readNode (inBlock withEntries : Bool) : Nat → Reader → Except Flaw (Node × Reader)
  | 0, _ => .error .nodeContent
  | fuel + 1, r =>
    match r.rest with
    | .reference name :: _ =>
      match r.anchors.lookup name with
      | some n => .ok (n, r.drop)
      | none => .error .unknownAnchor
    | _ => do
      let (p, r) ← r.readProperties
      let (n, r) ←
        match r.rest with
        | .scalar text style :: _ => pure (Node.scalar p.tag text style, r.drop)
        | .flowSequence :: _ => readFlowItems true fuel [] r.drop
        | .flowMapping :: _ => readFlowEntries true fuel [] r.drop
        | t :: _ =>
          if t = .blockEntry && withEntries then readItems false fuel [] r
          else if t = .blockSequence && inBlock then readItems true fuel [] r.drop
          else if t = .blockMapping && inBlock then readEntries fuel [] r.drop
          else if p.anchor.isSome || p.tag.isSome then pure (Node.scalar p.tag "" .plain, r)
          else throw .nodeContent
        | [] =>
          if p.anchor.isSome || p.tag.isSome then pure (Node.scalar p.tag "" .plain, r)
          else throw .nodeContent
      return (n, r.mark p n)

/-- Reads a tree, or finds it missing in front of one of the given tokens. -/
def readOptional (inBlock withEntries : Bool) (ends : List Token) :
    Nat → Reader → Except Flaw (Node × Reader)
  | 0, _ => .error .nodeContent
  | fuel + 1, r =>
    if r.isAt ends then .ok (Node.missing, r) else readNode inBlock withEntries fuel r

/-- Reads the items of a block sequence, which has an end of its own if it is indented. -/
def readItems (isIndented : Bool) : Nat → List Node → Reader → Except Flaw (Node × Reader)
  | 0, _, _ => .error .nodeContent
  | fuel + 1, items, r =>
    match r.rest with
    | .blockEntry :: _ => do
      let ends :=
        if isIndented then [.blockEntry, .blockEnd] else [.blockEntry, .key, .value, .blockEnd]
      let (n, r) ← readOptional true false ends fuel r.drop
      readItems isIndented fuel (items ++ [n]) r
    | t :: _ =>
      if !isIndented then .ok (.sequence items, r)
      else if t = .blockEnd then .ok (.sequence items, r.drop)
      else .error .missingHyphen
    | [] => .ok (.sequence items, r)

/-- Reads the entries of a block mapping. -/
def readEntries : Nat → List (Node × Node) → Reader → Except Flaw (Node × Reader)
  | 0, _, _ => .error .nodeContent
  | fuel + 1, entries, r =>
    match r.rest with
    | .key :: _ => do
      let (k, r) ← readOptional true true [.key, .value, .blockEnd] fuel r.drop
      let (v, r) ← readValue true [.key, .value, .blockEnd] fuel r
      readEntries fuel (entries ++ [(k, v)]) r
    | .blockEnd :: _ => .ok (.mapping entries, r.drop)
    | _ => .error .missingKey

/-- Reads the value of an entry, if there is one. -/
def readValue (inBlock : Bool) (ends : List Token) : Nat → Reader → Except Flaw (Node × Reader)
  | 0, _ => .error .nodeContent
  | fuel + 1, r =>
    match r.rest with
    | .value :: _ => readOptional inBlock inBlock ends fuel r.drop
    | _ => .ok (Node.missing, r)

/-- Reads the items of a bracketed sequence. An item with a colon is a mapping of one entry. -/
def readFlowItems (isFirst : Bool) : Nat → List Node → Reader → Except Flaw (Node × Reader)
  | 0, _, _ => .error .nodeContent
  | fuel + 1, items, r => do
    if r.rest.head? = some .flowSequenceEnd then return (.sequence items, r.drop)
    if !isFirst && r.rest.head? != some .flowEntry then throw .missingComma
    let r := if isFirst then r else r.drop
    match r.rest with
    | .flowSequenceEnd :: _ => return (.sequence items, r.drop)
    | .key :: _ =>
      let (k, r) ← readOptional false false [.value, .flowEntry, .flowSequenceEnd] fuel r.drop
      let (v, r) ← readValue false [.flowEntry, .flowSequenceEnd] fuel r
      readFlowItems false fuel (items ++ [.mapping [(k, v)]]) r
    | _ =>
      let (n, r) ← readNode false false fuel r
      readFlowItems false fuel (items ++ [n]) r

/-- Reads the entries of a bracketed mapping. -/
def readFlowEntries (isFirst : Bool) :
    Nat → List (Node × Node) → Reader → Except Flaw (Node × Reader)
  | 0, _, _ => .error .nodeContent
  | fuel + 1, entries, r => do
    if r.rest.head? = some .flowMappingEnd then return (.mapping entries, r.drop)
    if !isFirst && r.rest.head? != some .flowEntry then throw .missingComma
    let r := if isFirst then r else r.drop
    match r.rest with
    | .flowMappingEnd :: _ => return (.mapping entries, r.drop)
    | .key :: _ =>
      let (k, r) ← readOptional false false [.value, .flowEntry, .flowMappingEnd] fuel r.drop
      let (v, r) ← readValue false [.flowEntry, .flowMappingEnd] fuel r
      readFlowEntries false fuel (entries ++ [(k, v)]) r
    | _ =>
      let (k, r) ← readNode false false fuel r
      readFlowEntries false fuel (entries ++ [(k, Node.missing)]) r

end

/-- Reads the directives of a document. A version other than 1.1 and 1.2 is refused. -/
def readDirectives (hasVersion : Bool) (handles : List String) :
    List Token → Except Flaw (List String × List Token)
  | .version major minor :: rest =>
    if hasVersion then .error .repeatedDirective
    else if major = 1 && (minor = 1 || minor = 2) then readDirectives true handles rest
    else .error .incompatible
  | .tagHandle handle :: rest =>
    if handles.contains handle then .error .repeatedDirective
    else readDirectives hasVersion (handle :: handles) rest
  | rest => .ok (handles, rest)

/-- Whether a document begins with a directive or a sign. -/
def isExplicit : List Token → Bool
  | .version _ _ :: _ => true
  | .tagHandle _ :: _ => true
  | .documentStart :: _ => true
  | _ => false

/-- Reads a document: its tree and the tokens after it. -/
def readDocument (tokens : List Token) : Except Flaw (Node × List Token) := do
  let (handles, rest) ← readDirectives false [] tokens
  let rest ←
    if isExplicit tokens then
      match rest with
      | .documentStart :: rest => pure rest
      | _ => throw Flaw.documentStart
    else pure rest
  let r : Reader := ⟨handles, [], rest⟩
  if isExplicit tokens && (isExplicit rest || rest.head? = some .documentEnd || rest.isEmpty) then
    return (Node.missing, rest)
  let (n, r) ← readNode true false (4 * rest.length + 4) r
  return (n, r.rest)

end Reader

/-- The tree of a text that holds one document, or none: its tree is missing then. -/
def Node.ofText (text : String) : Except Flaw Node := do
  let tokens ← Token.listOfText text
  if tokens.isEmpty then return Node.missing
  let (n, rest) ← Reader.readDocument tokens
  let rest := rest.dropWhile (· = .documentEnd)
  if !rest.isEmpty then
    throw (if Reader.isExplicit rest then .moreThanOneDocument else .documentStart)
  return n

end ScriptSuite.Yaml
