import VirtualNode.Yaml.Scalar

/-!
# The layout of YAML texts

A YAML text shows the structure of its documents by indentation and by marks.  Reading it token by
token, the layout keeps track of how far the open blocks are indented and of what may turn out to
be a key, because a key is told only by the colon behind it: then a mark is put before it.

Main definition: `tokens?`, the tokens of a text.
-/

set_option autoImplicit false

namespace VirtualNode.Yaml

/-- What may turn out to be a key: it lies on one line and is not too long. -/
structure Candidate where
  /-- Whether nothing but a key can stand there. -/
  required : Bool
  /-- The number of tokens before it. -/
  position : Nat
  /-- The place at which it begins. -/
  origin : Cursor
  deriving Inhabited

/-- The most characters that a key takes up when no mark stands before it. -/
def keyLimit : Nat := 1024

/-- Whether a candidate is a key no more at a place. -/
def Candidate.isStale (k : Candidate) (c : Cursor) : Bool :=
  k.origin.line < c.line || k.origin.index + keyLimit < c.index

/-- What has been read of a text. -/
structure Layout where
  cursor : Cursor
  tokens : Array Token
  /-- The candidate of the block, under one for each open bracket, the innermost first. -/
  candidates : List (Option Candidate)
  /-- The column of the innermost block; less than zero if there is none. -/
  indent : Int
  /-- The columns of the blocks around it. -/
  outer : List Int
  /-- Whether a key may begin here. -/
  keyAllowed : Bool
  deriving Inhabited

namespace Layout

/-- The layout at the beginning of a text. -/
def start (text : List Char) : Layout :=
  ⟨.start text, #[], [none], -1, [], true⟩

/-- Whether a bracket is open. -/
def inFlow (l : Layout) : Bool := 1 < l.candidates.length

/-- Adds a token. -/
def push (l : Layout) (t : Token) : Layout := { l with tokens := l.tokens.push t }

/-- Moves on within a line. -/
def skip (l : Layout) (count : Nat) : Layout := { l with cursor := l.cursor.skip count }

/-- Says whether a key may begin. -/
def allowKey (l : Layout) (allowed : Bool) : Layout := { l with keyAllowed := allowed }

/-! ## Indentation -/

/-- Opens a block at a column, if it is indented further than the one around it, and puts its mark
at a position among the tokens. -/
def openBlock (l : Layout) (column position : Nat) (t : Token) : Layout :=
  if !l.inFlow && l.indent < column then
    { l with
      indent := column
      outer := l.indent :: l.outer
      tokens := l.tokens.insertIdxIfInBounds position t }
  else l

/-- Closes the blocks that are indented further than a column. -/
def closeBlocks (column : Int) : List Int → Int → Array Token → Int × List Int × Array Token
  | outer, indent, tokens =>
    if indent ≤ column then (indent, outer, tokens)
    else match outer with
      | [] => (indent, [], tokens)
      | next :: rest => closeBlocks column rest next (tokens.push .blockEnd)

/-- Closes the blocks that are indented further than a column, unless a bracket is open. -/
def closeTo (l : Layout) (column : Int) : Layout :=
  if l.inFlow then l
  else
    let (indent, outer, tokens) := closeBlocks column l.outer l.indent l.tokens
    { l with indent := indent, outer := outer, tokens := tokens }

/-! ## Keys -/

/-- Gives up the innermost candidate, unless it has to be a key. -/
def dropCandidate? (l : Layout) : Option Layout :=
  match l.candidates with
  | some k :: rest => if k.required then none else some { l with candidates := none :: rest }
  | _ => some l

/-- Gives up the candidates that are keys no more, unless one of them has to be one. -/
def dropStale? (l : Layout) : Option Layout := do
  let keep (k? : Option Candidate) : Option (Option Candidate) :=
    match k? with
    | some k => if k.isStale l.cursor then (if k.required then none else some none) else some k?
    | none => some none
  return { l with candidates := ← l.candidates.mapM keep }

/-- Notes that a key may begin here. -/
def addCandidate? (l : Layout) : Option Layout := do
  if l.keyAllowed then
    let required := !l.inFlow && l.indent = l.cursor.column
    let l ← l.dropCandidate?
    return { l with
      candidates := some ⟨required, l.tokens.size, l.cursor⟩ :: l.candidates.drop 1 }
  else return l

/-! ## Tokens -/

/-- Adds a token of a number of characters. -/
def mark (l : Layout) (t : Token) (width : Nat) : Layout := (l.push t).skip width

/-- Reads the end of the text. -/
def readEnd? (l : Layout) : Option Layout := do
  let l ← (l.closeTo (-1)).dropCandidate?
  return (l.allowKey false).push .streamEnd

/-- Reads a directive. -/
def readDirective? (l : Layout) : Option Layout := do
  let l ← (l.closeTo (-1)).dropCandidate?
  let (t, c) ← readDirective l.cursor
  return { (l.allowKey false).push t with cursor := c }

/-- Reads a line that opens or closes a document. -/
def readDocumentMark? (l : Layout) (t : Token) : Option Layout := do
  let l ← (l.closeTo (-1)).dropCandidate?
  return (l.allowKey false).mark t 3

/-- Reads an opening bracket. -/
def readOpening? (l : Layout) (t : Token) : Option Layout := do
  let l ← l.addCandidate?
  return ({ l with candidates := none :: l.candidates }.allowKey true).mark t 1

/-- Reads a closing bracket. -/
def readClosing? (l : Layout) (t : Token) : Option Layout := do
  let l ← l.dropCandidate?
  let l := if l.inFlow then { l with candidates := l.candidates.drop 1 } else l
  return (l.allowKey false).mark t 1

/-- Reads a comma. -/
def readComma? (l : Layout) : Option Layout := do
  let l ← l.dropCandidate?
  return (l.allowKey true).mark .flowEntry 1

/-- Opens a block for a mark at this place, which must not stand behind other tokens of the
line. -/
def openHere? (l : Layout) (t : Token) : Option Layout :=
  if l.inFlow then some l
  else if l.keyAllowed then some (l.openBlock l.cursor.column l.tokens.size t)
  else none

/-- Reads the mark before an item. -/
def readEntry? (l : Layout) : Option Layout := do
  let l ← (← l.openHere? .blockListStart).dropCandidate?
  return (l.allowKey true).mark .blockEntry 1

/-- Reads the mark before a key. -/
def readKey? (l : Layout) : Option Layout := do
  let l ← (← l.openHere? .blockMappingStart).dropCandidate?
  return (l.allowKey (!l.inFlow)).mark .key 1

/-- Reads the mark before a value. -/
def readValue? (l : Layout) : Option Layout :=
  match l.candidates with
  | some k :: rest =>
    let l := { l with tokens := l.tokens.insertIdxIfInBounds k.position .key }
    let l := l.openBlock k.origin.column k.position .blockMappingStart
    some (({ l with candidates := none :: rest }.allowKey false).mark .value 1)
  | _ => do
    let l ← l.openHere? .blockMappingStart
    return (l.allowKey (!l.inFlow)).mark .value 1

/-- Reads a part of a node that may begin a key. -/
def readPart? (l : Layout) (read : Cursor → Option (Token × Cursor)) : Option Layout := do
  let l ← l.addCandidate?
  let (t, c) ← read l.cursor
  return { (l.allowKey false).push t with cursor := c }

/-- Reads a plain scalar. -/
def readPlain? (l : Layout) : Option Layout := do
  let l ← l.addCandidate?
  let ((t, broken), c) ← readPlain l.inFlow l.indent l.cursor
  return { (l.allowKey broken).push t with cursor := c }

/-- Reads a block of lines. -/
def readBlock? (l : Layout) (literal : Bool) : Option Layout := do
  let l ← l.dropCandidate?
  let (t, c) ← readBlock literal l.indent l.cursor
  return { (l.allowKey true).push t with cursor := c }

/-- Moves to the next token, over blanks, comments and empty lines. -/
def skipToToken : (fuel : Nat) → Layout → Layout
  | 0, l => l
  | fuel + 1, l =>
    let c := if l.cursor.column = 0 && l.cursor.starts '\ufeff' then l.cursor.skip 1 else l.cursor
    let c := c.skipAll fun x => x = ' ' || (x = '\t' && (l.inFlow || !l.keyAllowed))
    let c := c.skipComment
    if (c.peek? 0).any isBreak then
      skipToToken fuel { l with cursor := c.skipBreak, keyAllowed := l.keyAllowed || !l.inFlow }
    else { l with cursor := c }

/-- Whether a plain scalar may begin with a character. -/
def beginsPlain (l : Layout) (x : Char) : Bool :=
  if x = '-' then !l.cursor.blankAt 1
  else if x = '?' || x = ':' then !l.inFlow && !l.cursor.gapAt 1
  else !isGap x && !(",[]\x7b\x7d#&*!|>'\"%@".toList.contains x || x.toNat = 0x60)

/-- Reads the token that begins with a character. -/
def readToken? (l : Layout) (x : Char) : Option Layout :=
  let c := l.cursor
  if c.column = 0 && x = '%' then l.readDirective?
  else if c.atDocumentMark then
    l.readDocumentMark? (if x = '-' then .documentStart else .documentEnd)
  else match x with
    | '[' => l.readOpening? .flowListStart
    | '\x7b' => l.readOpening? .flowMappingStart
    | ']' => l.readClosing? .flowListEnd
    | '\x7d' => l.readClosing? .flowMappingEnd
    | ',' => l.readComma?
    | '*' => l.readPart? fun c => (readAnchor c).map fun (name, c) => (.reference name, c)
    | '&' => l.readPart? fun c => (readAnchor c).map fun (name, c) => (.anchor name, c)
    | '!' => l.readPart? (readTag l.inFlow)
    | '\'' => l.readPart? (readQuoted true)
    | '"' => l.readPart? (readQuoted false)
    | _ =>
      if x = '-' && c.gapAt 1 then l.readEntry?
      else if x = '?' && (l.inFlow || c.gapAt 1) then l.readKey?
      else if x = ':' && (l.inFlow || c.gapAt 1) then l.readValue?
      else if (x = '|' || x = '>') && !l.inFlow then l.readBlock? (x = '|')
      else if l.beginsPlain x then l.readPlain?
      else none

/-- Reads the tokens that are left. -/
def readAll? : (fuel : Nat) → Layout → Option (Array Token)
  | 0, _ => none
  | fuel + 1, l => do
    let l ← (skipToToken (l.cursor.rest.length + 1) l).dropStale?
    let l := l.closeTo l.cursor.column
    match l.cursor.rest with
    | [] => return (← l.readEnd?).tokens
    | x :: _ => readAll? fuel (← l.readToken? x)

end Layout

/-- The tokens of a text, if it is well laid out. -/
def tokens? (text : List Char) : Option (Array Token) :=
  if text.all isAllowed then Layout.readAll? (text.length + 1) (.start text) else none

end VirtualNode.Yaml
