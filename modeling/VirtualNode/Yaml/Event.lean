import VirtualNode.Yaml.Layout

/-!
# Events of YAML documents

The structure of documents as a flat list of events: where lists and mappings begin and end, and
the scalars in between.  The events come from the tokens of a text; a token that has no place there
makes the text unreadable.  A part that is missing counts as an empty scalar.
-/

set_option autoImplicit false

namespace VirtualNode.Yaml

/-- The properties of a node: its name and its tag, both of which may be missing. -/
structure Properties where
  anchor : Option (List Char)
  tag : Option (List UInt8)
  deriving DecidableEq, Repr, Inhabited

/-- An event. -/
inductive Event where
  | reference (name : List Char)
  | scalar (properties : Properties) (text : List Char) (plain : Bool)
  | listStart (properties : Properties)
  | listEnd
  | mappingStart (properties : Properties)
  | mappingEnd
  deriving DecidableEq, Repr, Inhabited

/-- The event of a node that is missing. -/
def Event.missing : Event := .scalar ⟨none, none⟩ [] true

/-- What is expected next. -/
inductive Expected where
  /-- The end of a document. -/
  | documentEnd
  /-- A node that is laid out in lines; it may be a list that is not indented. -/
  | blockNode (indentless : Bool)
  /-- A node within brackets. -/
  | flowNode
  | blockItem
  | indentlessItem
  | blockKey
  | blockValue
  /-- An item of a list in brackets; the first one stands behind no comma. -/
  | flowItem (first : Bool)
  /-- The key of a mapping that is an item of a list in brackets. -/
  | pairKey
  | pairValue
  | pairEnd
  | flowKey (first : Bool)
  /-- The value of a mapping in brackets; the key may have come without it. -/
  | flowValue (missing : Bool)
  deriving DecidableEq, Repr, Inhabited

/-- The short forms of the beginnings of tags. -/
abbrev Handles := List (List Char × List UInt8)

/-- The bytes of an ASCII text. -/
def asciiBytes (s : String) : List UInt8 := s.toUTF8.toList

/-- The stem of the tags that every document knows. -/
def commonStem : String := "tag:yaml.org,2002:"

/-- The short forms that stand for something unless a document says otherwise. -/
def commonHandles : Handles :=
  [(['!'], asciiBytes "!"), (['!', '!'], asciiBytes commonStem)]

/-- What is left to read: the tokens, what is expected, and the short forms of tags. -/
structure Outline where
  tokens : List Token
  expected : List Expected
  handles : Handles

/-- One event, and what is left then. -/
abbrev Step := Option (List Event × Outline)

namespace Outline

/-- Goes on with an event. -/
def emit (o : Outline) (e : Event) : Step := some ([e], o)

/-- Goes on without an event. -/
def silent (o : Outline) : Step := some ([], o)

/-- Moves behind the next token. -/
def next (o : Outline) : Outline := { o with tokens := o.tokens.drop 1 }

/-- Expects something before everything else. -/
def expect (o : Outline) (xs : List Expected) : Outline :=
  { o with expected := xs ++ o.expected }

/-- Expects a node, and something behind it, unless one of some tokens says that it is missing. -/
def node (o : Outline) (isMissing : Token → Bool) (node : Expected) (after : Expected) : Step :=
  if (o.tokens.head?.any isMissing) then (o.expect [after]).emit .missing
  else (o.expect [node, after]).silent

/-! ## Nodes -/

/-- The full tag of a handle and a rest. -/
def fullTag? (o : Outline) (handle : List Char) (rest : List UInt8) : Option (List UInt8) :=
  if handle = [] then some rest
  else (o.handles.find? fun h => h.1 = handle).map fun h => h.2 ++ rest

/-- Reads the properties of a node. -/
def readProperties (o : Outline) : Option (Properties × Outline) :=
  match o.tokens with
  | .anchor name :: .tag handle rest :: tokens
  | .tag handle rest :: .anchor name :: tokens => do
    return (⟨some name, some (← o.fullTag? handle rest)⟩, { o with tokens := tokens })
  | .anchor name :: tokens => some (⟨some name, none⟩, { o with tokens := tokens })
  | .tag handle rest :: tokens => do
    return (⟨none, some (← o.fullTag? handle rest)⟩, { o with tokens := tokens })
  | _ => some (⟨none, none⟩, o)

/-- A node that has properties but no content. -/
def readBare (o : Outline) (p : Properties) : Step :=
  if p.anchor.isNone && p.tag.isNone then none else o.emit (.scalar p [] true)

/-- Reads a node. -/
def readNode (o : Outline) (block indentless : Bool) : Step :=
  match o.tokens with
  | .reference name :: _ => o.next.emit (.reference name)
  | _ => do
    let (p, o) ← o.readProperties
    match o.tokens with
    | .blockEntry :: _ =>
      if indentless then (o.expect [.indentlessItem]).emit (.listStart p)
      else o.readBare p
    | .scalar text plain :: _ => o.next.emit (.scalar p text plain)
    | .flowListStart :: _ => (o.next.expect [.flowItem true]).emit (.listStart p)
    | .flowMappingStart :: _ => (o.next.expect [.flowKey true]).emit (.mappingStart p)
    | .blockListStart :: _ =>
      if block then (o.next.expect [.blockItem]).emit (.listStart p) else o.readBare p
    | .blockMappingStart :: _ =>
      if block then (o.next.expect [.blockKey]).emit (.mappingStart p) else o.readBare p
    | _ => o.readBare p

/-! ## Blocks -/

/-- Whether a token says that an item is missing. -/
def endsItem (t : Token) : Bool := t = .blockEntry || t = .blockEnd

/-- Whether a token says that an item of a list that is not indented is missing. -/
def endsIndentlessItem (t : Token) : Bool :=
  t = .blockEntry || t = .key || t = .value || t = .blockEnd

/-- Whether a token says that a key or a value is missing. -/
def endsEntry (t : Token) : Bool := t = .key || t = .value || t = .blockEnd

/-- Reads an item of a list. -/
def readItem (o : Outline) : Step :=
  match o.tokens with
  | .blockEntry :: _ => o.next.node endsItem (.blockNode false) .blockItem
  | .blockEnd :: _ => o.next.emit .listEnd
  | _ => none

/-- Reads an item of a list that is not indented. -/
def readIndentlessItem (o : Outline) : Step :=
  match o.tokens with
  | .blockEntry :: _ => o.next.node endsIndentlessItem (.blockNode false) .indentlessItem
  | _ => o.emit .listEnd

/-- Reads a key. -/
def readKey (o : Outline) : Step :=
  match o.tokens with
  | .key :: _ => o.next.node endsEntry (.blockNode true) .blockValue
  | .blockEnd :: _ => o.next.emit .mappingEnd
  | _ => none

/-- Reads a value. -/
def readValue (o : Outline) : Step :=
  match o.tokens with
  | .value :: _ => o.next.node endsEntry (.blockNode true) .blockKey
  | _ => (o.expect [.blockKey]).emit .missing

/-! ## Brackets -/

/-- Whether a token says that a part of a list in brackets is missing. -/
def endsFlowItem (t : Token) : Bool := t = .flowEntry || t = .flowListEnd

/-- Whether a token says that a part of a mapping in brackets is missing. -/
def endsFlowEntry (t : Token) : Bool := t = .flowEntry || t = .flowMappingEnd

/-- Moves behind the comma that must stand before every part but the first one. -/
def afterComma? (o : Outline) (first : Bool) (closing : Token) : Option Outline :=
  if first || o.tokens.head? = some closing then some o
  else if o.tokens.head? = some .flowEntry then some o.next
  else none

/-- Reads an item of a list in brackets. -/
def readFlowItem (o : Outline) (first : Bool) : Step := do
  let o ← o.afterComma? first .flowListEnd
  match o.tokens with
  | .key :: _ => (o.next.expect [.pairKey]).emit (.mappingStart ⟨none, none⟩)
  | .flowListEnd :: _ => o.next.emit .listEnd
  | _ => (o.expect [.flowNode, .flowItem false]).silent

/-- Reads the key of a mapping that is an item of a list.  Where the key is missing, the token that
says so is passed over. -/
def readPairKey (o : Outline) : Step :=
  if o.tokens.head?.any fun t => t = .value || endsFlowItem t then
    (o.next.expect [.pairValue]).emit .missing
  else (o.expect [.flowNode, .pairValue]).silent

/-- Reads the value of a mapping that is an item of a list. -/
def readPairValue (o : Outline) : Step :=
  match o.tokens with
  | .value :: _ => o.next.node endsFlowItem .flowNode .pairEnd
  | _ => (o.expect [.pairEnd]).emit .missing

/-- Reads a key of a mapping in brackets. -/
def readFlowKey (o : Outline) (first : Bool) : Step := do
  let o ← o.afterComma? first .flowMappingEnd
  match o.tokens with
  | .key :: _ =>
    o.next.node (fun t => t = .value || endsFlowEntry t) .flowNode (.flowValue false)
  | .flowMappingEnd :: _ => o.next.emit .mappingEnd
  | _ => (o.expect [.flowNode, .flowValue true]).silent

/-- Reads a value of a mapping in brackets. -/
def readFlowValue (o : Outline) (missing : Bool) : Step :=
  match missing, o.tokens with
  | false, .value :: _ => o.next.node endsFlowEntry .flowNode (.flowKey false)
  | _, _ => (o.expect [.flowKey false]).emit .missing

/-- Reads what is expected next. -/
def step (o : Outline) : Expected → Step
  | .documentEnd => none
  | .blockNode indentless => o.readNode true indentless
  | .flowNode => o.readNode false false
  | .blockItem => o.readItem
  | .indentlessItem => o.readIndentlessItem
  | .blockKey => o.readKey
  | .blockValue => o.readValue
  | .flowItem first => o.readFlowItem first
  | .pairKey => o.readPairKey
  | .pairValue => o.readPairValue
  | .pairEnd => (o.expect [.flowItem false]).emit .mappingEnd
  | .flowKey first => o.readFlowKey first
  | .flowValue missing => o.readFlowValue missing

/-! ## Documents -/

/-- Reads the events of a document up to its end.  The events come in reverse. -/
def readDocument : (fuel : Nat) → List Event → Outline → Option (List Event × Outline)
  | 0, _, _ => none
  | fuel + 1, events, o =>
    match o.expected with
    | [] | .documentEnd :: _ => some (events, o)
    | x :: rest => do
      let (es, o) ← { o with expected := rest }.step x
      readDocument fuel (es.reverse ++ events) o

/-- Reads directives.  There may be one version, and no handle may be given twice. -/
def readDirectives : Bool → Handles → List Token → Option (Handles × List Token)
  | versioned, handles, .versionDirective major minor :: tokens =>
    if versioned || major ≠ 1 || (minor ≠ 1 && minor ≠ 2) then none
    else readDirectives true handles tokens
  | versioned, handles, .tagDirective handle stem :: tokens =>
    if handles.any fun h => h.1 = handle then none
    else readDirectives versioned (handles ++ [(handle, stem)]) tokens
  | _, handles, tokens => some (handles, tokens)

/-- Whether a token begins a document that says so. -/
def beginsExplicitly (t : Token) : Bool :=
  match t with
  | .versionDirective _ _ | .tagDirective _ _ | .documentStart => true
  | _ => false

/-- Whether a document has no content. -/
def isEmptyDocument : List Token → Bool
  | .versionDirective _ _ :: _ | .tagDirective _ _ :: _ | .documentStart :: _
  | .documentEnd :: _ | .streamEnd :: _ => true
  | _ => false

/-- Reads the documents that are left.  Only the first one may begin without saying so. -/
def readDocuments : (fuel : Nat) → (first : Bool) → List Token → Option (List (List Event))
  | 0, _, _ => none
  | fuel + 1, first, tokens => do
    let tokens := if first then tokens else tokens.dropWhile (· = .documentEnd)
    if tokens.head? = some .streamEnd then return []
    let explicit := !first || tokens.head?.any beginsExplicitly
    let (handles, tokens) ←
      if explicit then do
        let (handles, tokens) ← readDirectives false [] tokens
        guard (tokens.head? = some .documentStart)
        pure (handles, tokens.drop 1)
      else pure ([], tokens)
    let outline : Outline := ⟨tokens, [.blockNode false], handles ++ commonHandles⟩
    let (events, o) ←
      if explicit && isEmptyDocument tokens then
        pure ([Event.missing], { outline with expected := [] })
      else readDocument (8 * tokens.length + 8) [] outline
    let tokens := if o.tokens.head? = some .documentEnd then o.tokens.drop 1 else o.tokens
    return events.reverse :: (← readDocuments fuel false tokens)

end Outline

/-- The events of the documents in a text, if it is well-formed. -/
def events? (text : String) : Option (List (List Event)) := do
  let tokens := (← tokens? text.toList).toList
  Outline.readDocuments (tokens.length + 1) true tokens

end VirtualNode.Yaml
