/-!
# Places in a YAML text

A cursor is a place in a text, together with what follows it.  It counts characters, lines and
columns, because the structure of a YAML text depends on how far its lines are indented.
-/

set_option autoImplicit false

namespace VirtualNode.Yaml

/-- A character that may stand in a YAML text. -/
def isAllowed (c : Char) : Bool :=
  let n := c.toNat
  n = 9 || n = 10 || n = 13 || (0x20 ≤ n && n ≤ 0x7E) || n = 0x85
    || (0xA0 ≤ n && n ≤ 0xFFFD) || 0x10000 ≤ n

/-- A character that ends a line. -/
def isBreak (c : Char) : Bool :=
  c = '\n' || c = '\r' || c = '\u0085' || c = '\u2028' || c = '\u2029'

/-- A space or a tab. -/
def isBlank (c : Char) : Bool := c = ' ' || c = '\t'

/-- A character that ends a word. -/
def isGap (c : Char) : Bool := isBlank c || isBreak c

/-- A character of a name. -/
def isNameChar (c : Char) : Bool := c.isAlphanum || c = '_' || c = '-'

/-- A place in a text. -/
structure Cursor where
  rest : List Char
  /-- The number of characters before the place. -/
  index : Nat
  line : Nat
  column : Nat
  deriving Repr, Inhabited

namespace Cursor

/-- The beginning of a text. -/
def start (text : List Char) : Cursor := ⟨text, 0, 0, 0⟩

/-- The character some places further on. -/
def peek? (c : Cursor) (k : Nat) : Option Char := c.rest[k]?

/-- Whether the character at the place is the given one. -/
def starts (c : Cursor) (x : Char) : Bool := c.rest.head? = some x

/-- Whether a word ends some places further on, be it because the text does. -/
def gapAt (c : Cursor) (k : Nat) : Bool := (c.peek? k).all isGap

/-- Whether a blank stands some places further on. -/
def blankAt (c : Cursor) (k : Nat) : Bool := (c.peek? k).any isBlank

/-- Whether a line ends here, be it because the text does. -/
def lineEnds (c : Cursor) : Bool := (c.peek? 0).all isBreak

/-- Moves on within a line. -/
def skip (c : Cursor) (count : Nat) : Cursor :=
  { c with rest := c.rest.drop count, index := c.index + count, column := c.column + count }

/-- Moves on to the next line. -/
def skipBreak (c : Cursor) : Cursor :=
  let width := match c.rest with
    | '\r' :: '\n' :: _ => 2
    | _ => 1
  ⟨c.rest.drop width, c.index + width, c.line + 1, 0⟩

/-- What the end of a line stands for in a scalar. -/
def breakText (c : Cursor) : List Char :=
  match c.rest with
  | [] => []
  | x :: _ => if x = '\u2028' || x = '\u2029' then [x] else ['\n']

/-- Takes the characters in front that pass a test, and moves behind them. -/
def take (c : Cursor) (test : Char → Bool) : List Char × Cursor :=
  let front := c.rest.takeWhile test
  (front, c.skip front.length)

/-- Moves behind the characters in front that pass a test. -/
def skipAll (c : Cursor) (test : Char → Bool) : Cursor := (c.take test).2

/-- Moves behind a comment. -/
def skipComment (c : Cursor) : Cursor :=
  if c.starts '#' then c.skipAll fun x => !isBreak x else c

/-- Whether a line that is no part of any document begins here. -/
def atDocumentMark (c : Cursor) : Bool :=
  c.column = 0 && c.gapAt 3
    && (['-', '-', '-'].isPrefixOf c.rest || ['.', '.', '.'].isPrefixOf c.rest)

/-- Moves to the next line behind blanks and a comment, if nothing else stands before it. -/
def finishLine? (c : Cursor) : Option Cursor :=
  let c := (c.skipAll isBlank).skipComment
  if !c.lineEnds then none
  else some (if c.rest.isEmpty then c else c.skipBreak)

end Cursor

end VirtualNode.Yaml
