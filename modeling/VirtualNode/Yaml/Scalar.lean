import VirtualNode.Yaml.Property

/-!
# Contents of scalars

The text of a scalar as it stands in a document: plain, between quotes, or as a block of lines.
Lines are folded: a single end of a line becomes a space, of several all but the first are kept.
-/

set_option autoImplicit false

namespace VirtualNode.Yaml

/-- What separates two words of a scalar. -/
structure Spacing where
  blanks : List Char := []
  /-- Whether a line has ended. -/
  broken : Bool := false
  firstBreak : List Char := []
  moreBreaks : List Char := []
  deriving Repr, Inhabited

/-- What a separation stands for. -/
def Spacing.text (s : Spacing) : List Char :=
  if !s.broken then s.blanks
  else if s.firstBreak = ['\n'] then (if s.moreBreaks = [] then [' '] else s.moreBreaks)
  else s.firstBreak ++ s.moreBreaks

/-- Notes the end of a line. -/
def Spacing.addBreak (s : Spacing) (text : List Char) : Spacing :=
  if s.broken then { s with moreBreaks := s.moreBreaks ++ text }
  else ⟨[], true, text, s.moreBreaks⟩

/-- Reads blanks and ends of lines.  Tabs may not stand before column `indent` at the beginning of
a line. -/
def readSpacing (indent : Int) : (fuel : Nat) → Spacing → Cursor → Option (Spacing × Cursor)
  | 0, s, c => some (s, c)
  | fuel + 1, s, c =>
    match c.rest with
    | x :: _ =>
      if isBlank x then
        if s.broken && c.column < indent && x = '\t' then none
        else
          let s := if s.broken then s else { s with blanks := s.blanks ++ [x] }
          readSpacing indent fuel s (c.skip 1)
      else if isBreak x then readSpacing indent fuel (s.addBreak c.breakText) c.skipBreak
      else some (s, c)
    | [] => some (s, c)

/-! ## Between quotes -/

/-- The character for which a letter after a backslash stands. -/
def escaped? : Char → Option Char
  | '0' => some '\x00'
  | 'a' => some '\x07'
  | 'b' => some '\x08'
  | 't' | '\t' => some '\t'
  | 'n' => some '\n'
  | 'v' => some '\x0b'
  | 'f' => some '\x0c'
  | 'r' => some '\r'
  | 'e' => some '\x1b'
  | ' ' => some ' '
  | '"' => some '"'
  | '/' => some '/'
  | '\\' => some '\\'
  | 'N' => some '\u0085'
  | '_' => some '\u00a0'
  | 'L' => some '\u2028'
  | 'P' => some '\u2029'
  | _ => none

/-- The number of digits that follow a letter after a backslash. -/
def codeLength? : Char → Option Nat
  | 'x' => some 2
  | 'u' => some 4
  | 'U' => some 8
  | _ => none

/-- The character that digits of base sixteen stand for. -/
def charOfCode? (digits : List Char) : Option Char := do
  let n := (← digits.mapM Text.Hex.digit?).foldl (fun n d => n * 16 + d) 0
  if (0xD800 ≤ n && n ≤ 0xDFFF) || 0x10FFFF < n then none else some (Char.ofNat n)

/-- Reads a character that is written with a backslash. -/
def readEscape (c : Cursor) : Option (Char × Cursor) := do
  let letter ← c.peek? 1
  let c := c.skip 2
  match codeLength? letter with
  | some count =>
    let digits := c.rest.take count
    guard (digits.length = count)
    return (← charOfCode? digits, c.skip count)
  | none => return (← escaped? letter, c)

/-- The mark around a quoted scalar. -/
def quoteMark (single : Bool) : Char := if single then '\'' else '"'

/-- Reads the characters of a word between quotes.  The answer also tells whether an end of a line
with a backslash before it ended the word. -/
def readQuotedWord (single : Bool) :
    (fuel : Nat) → List Char → Cursor → Option ((List Char × Bool) × Cursor)
  | 0, word, c => some ((word, false), c)
  | fuel + 1, word, c =>
    match c.rest with
    | [] => some ((word, false), c)
    | x :: more =>
      if isGap x then some ((word, false), c)
      else if single && x = '\'' && more.head? = some '\'' then
        readQuotedWord single fuel (x :: word) (c.skip 2)
      else if x = quoteMark single then some ((word, false), c)
      else if !single && x = '\\' then
        if more.head?.any isBreak then some ((word, true), (c.skip 1).skipBreak)
        else do
          let (x, c) ← readEscape c
          readQuotedWord single fuel (x :: word) c
      else readQuotedWord single fuel (x :: word) (c.skip 1)

/-- Reads the words between quotes after the opening mark; `text` is reversed. -/
def readQuotedWords (single : Bool) :
    (fuel : Nat) → List Char → Cursor → Option (List Char × Cursor)
  | 0, _, _ => none
  | fuel + 1, text, c => do
    guard (!c.atDocumentMark && !c.rest.isEmpty)
    let ((text, broken), c) ← readQuotedWord single (c.rest.length + 1) text c
    if c.starts (quoteMark single) then return (text, c.skip 1)
    else
      let (spacing, c) ← readSpacing 0 (c.rest.length + 1) { broken := broken } c
      readQuotedWords single fuel (spacing.text.reverse ++ text) c

/-- Reads a scalar between quotes. -/
def readQuoted (single : Bool) (c : Cursor) : Option (Token × Cursor) := do
  let (text, c) ← readQuotedWords single (c.rest.length + 1) [] (c.skip 1)
  return (.scalar text.reverse false, c)

/-! ## Plain -/

/-- A character that ends a plain scalar within brackets. -/
def isFlowMark (c : Char) : Bool := ",[]\x7b\x7d".toList.contains c

/-- Whether a plain scalar ends before the next character. -/
def endsPlain (inFlow : Bool) (c : Cursor) : Bool :=
  (c.starts ':' && c.gapAt 1) || (inFlow && (c.peek? 0).any isFlowMark)

/-- A colon within brackets that can neither be part of a scalar nor end a key. -/
def isStrayColon (inFlow : Bool) (c : Cursor) : Bool :=
  inFlow && c.starts ':' && (c.peek? 1).any fun x => x = '?' || isFlowMark x

/-- Reads the characters of a word of a plain scalar. -/
def readPlainWord (inFlow : Bool) : (fuel : Nat) → List Char → Cursor → Option (List Char × Cursor)
  | 0, word, c => some (word, c)
  | fuel + 1, word, c =>
    match c.rest with
    | [] => some (word, c)
    | x :: _ =>
      if isGap x then some (word, c)
      else if isStrayColon inFlow c then none
      else if endsPlain inFlow c then some (word, c)
      else readPlainWord inFlow fuel (x :: word) (c.skip 1)

/-- Reads the words of a plain scalar, whose lines begin at column `indent` or later.  `text` is
reversed.  The answer also tells whether the scalar was left at the beginning of a line. -/
def readPlainWords (inFlow : Bool) (indent : Int) :
    (fuel : Nat) → List Char → Spacing → Cursor → Option ((List Char × Bool) × Cursor)
  | 0, _, _, _ => none
  | fuel + 1, text, before, c =>
    if c.atDocumentMark || c.starts '#' then some ((text, before.broken), c)
    else do
      let (word, c) ← readPlainWord inFlow (c.rest.length + 1) [] c
      let joined := if word = [] then text else word ++ before.text.reverse ++ text
      let before := if word = [] then before else {}
      if !(c.peek? 0).any isGap then return ((joined, before.broken), c)
      else
        let (spacing, c) ← readSpacing indent (c.rest.length + 1) before c
        if !inFlow && c.column < indent then return ((joined, spacing.broken), c)
        else readPlainWords inFlow indent fuel joined spacing c

/-- Reads a plain scalar within a block that is indented up to column `indent`. -/
def readPlain (inFlow : Bool) (indent : Int) (c : Cursor) : Option ((Token × Bool) × Cursor) := do
  let ((text, broken), c) ← readPlainWords inFlow (indent + 1) (c.rest.length + 1) [] {} c
  return ((.scalar text.reverse true, broken), c)

/-! ## Blocks of lines -/

/-- What becomes of the ends of the last lines of a block. -/
inductive Chomping where
  | strip
  | clip
  | keep
  deriving DecidableEq, Repr, Inhabited

/-- The head of a block: how it ends, and how far it is indented, if this is said. -/
structure BlockHead where
  chomping : Chomping
  increment : Nat
  deriving Repr, Inhabited

/-- Reads a mark that says how a block ends. -/
def readChomping (c : Cursor) : Option Chomping × Cursor :=
  if c.starts '+' then (some .keep, c.skip 1)
  else if c.starts '-' then (some .strip, c.skip 1)
  else (none, c)

/-- Reads a digit that says how far a block is indented. -/
def readIncrement (c : Cursor) : Option (Nat × Cursor) :=
  match c.peek? 0 with
  | some x =>
    if x = '0' then none
    else if x.isDigit then some (x.toNat - 48, c.skip 1)
    else some (0, c)
  | none => some (0, c)

/-- Reads the head of a block with its line. -/
def readBlockHead (c : Cursor) : Option (BlockHead × Cursor) := do
  let (before, c) := readChomping (c.skip 1)
  let (increment, c) ← readIncrement c
  let (after, c) := if before.isNone && increment ≠ 0 then readChomping c else (none, c)
  return (⟨(before.or after).getD .clip, increment⟩, ← c.finishLine?)

/-- Reads empty lines of a block and the indentation of the next line.  `indent` is zero as long as
the indentation is not known.  The answer also tells the widest column that was reached. -/
def readEmptyLines (indent : Nat) :
    (fuel : Nat) → Nat → List Char → Cursor → Option ((Nat × List Char) × Cursor)
  | 0, _, _, _ => none
  | fuel + 1, widest, breaks, c =>
    let spaces := (c.rest.takeWhile (· = ' ')).length
    let c := c.skip (if indent = 0 then spaces else min spaces (indent - c.column))
    let widest := max widest c.column
    if (indent = 0 || c.column < indent) && c.starts '\t' then none
    else if (c.peek? 0).any isBreak then
      readEmptyLines indent fuel widest (breaks ++ c.breakText) c.skipBreak
    else some ((widest, breaks), c)

/-- What is known of a block that is being read. -/
structure BlockState where
  /-- The text so far, reversed. -/
  text : List Char := []
  /-- The end of the last line. -/
  lastBreak : List Char := []
  /-- The ends of the empty lines after it. -/
  emptyLines : List Char := []
  /-- Whether the last line began with a blank. -/
  blankBefore : Bool := false

/-- Reads the lines of a block that is indented to column `indent`. -/
def readBlockLines (literal : Bool) (indent : Nat) :
    (fuel : Nat) → BlockState → Cursor → Option (BlockState × Cursor)
  | 0, _, _ => none
  | fuel + 1, s, c =>
    if c.column ≠ indent || c.rest.isEmpty then some (s, c)
    else do
      let blankHere := c.blankAt 0
      let folds := !literal && s.lastBreak = ['\n'] && !s.blankBefore && !blankHere
      let joint :=
        if folds then (if s.emptyLines = [] then [' '] else s.emptyLines)
        else s.lastBreak ++ s.emptyLines
      let (line, c) := c.take fun x => !isBreak x
      let lastBreak := c.breakText
      let c := if c.rest.isEmpty then c else c.skipBreak
      let ((_, emptyLines), c) ← readEmptyLines indent (c.rest.length + 1) 0 [] c
      readBlockLines literal indent fuel
        ⟨line.reverse ++ joint.reverse ++ s.text, lastBreak, emptyLines, blankHere⟩ c

/-- Reads a block of lines within a block that is indented up to column `outer`. -/
def readBlock (literal : Bool) (outer : Int) (c : Cursor) : Option (Token × Cursor) := do
  let (head, c) ← readBlockHead c
  let given := if head.increment = 0 then 0 else (max outer 0).toNat + head.increment
  let ((widest, breaks), c) ← readEmptyLines given (c.rest.length + 1) 0 [] c
  let indent := if given ≠ 0 then given else max (max widest (outer + 1).toNat) 1
  let (s, c) ← readBlockLines literal indent (c.rest.length + 1) { emptyLines := breaks } c
  let tail := match head.chomping with
    | .strip => []
    | .clip => s.lastBreak
    | .keep => s.lastBreak ++ s.emptyLines
  return (.scalar (s.text.reverse ++ tail) false, c)

end VirtualNode.Yaml
