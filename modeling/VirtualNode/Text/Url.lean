/-!
# Paths of URLs

The path and the query of a URL as they are sent.  Characters that must not stand there make the
URL unusable; a number sign ends it.  Values in a query are encoded as in a form.
-/

set_option autoImplicit false

namespace VirtualNode.Text.Url

/-- A character that may stand in a path. -/
def isPathChar (c : Char) : Bool :=
  0x20 < c.toNat && c ≠ '<' && c ≠ '>' && c ≠ '`'

/-- A character that may stand in a query. -/
def isQueryChar (c : Char) : Bool :=
  0x20 < c.toNat && c ≠ '<' && c ≠ '>' && c ≠ '"'

/-- A path and the query that follows it. -/
structure Target where
  path : String
  query : String
  deriving DecidableEq, Repr, Inhabited

/-- Reads a path with an optional query. -/
def target? (text : String) : Option Target :=
  let shown := text.toList.takeWhile (· ≠ '#')
  let path := shown.takeWhile (· ≠ '?')
  let query := (shown.dropWhile (· ≠ '?')).drop 1
  if path.all isPathChar && query.all isQueryChar then
    some ⟨String.ofList path, String.ofList query⟩
  else none

/-- The digits of a byte in base sixteen. -/
def hexByte (b : UInt8) : List Char :=
  let digit (n : Nat) : Char := Char.ofNat (if n < 10 then 48 + n else 55 + n)
  [digit (b.toNat / 16), digit (b.toNat % 16)]

/-- The form in which a byte stands in a form. -/
def encodeByte (b : UInt8) : List Char :=
  let c := Char.ofNat b.toNat
  if c.isAlphanum || c = '*' || c = '-' || c = '.' || c = '_' then [c]
  else if c = ' ' then ['+']
  else '%' :: hexByte b

/-- The form in which a text stands in a form. -/
def encode (s : String) : String :=
  String.ofList (s.toUTF8.toList.flatMap encodeByte)

/-- A name and its value as they stand in a form. -/
def pair (name value : String) : String :=
  encode name ++ "=" ++ encode value

/-- The pairs of an encoded query, in the order of their texts. -/
def sortedPairs (query : String) : List String :=
  let parts := splitAmp query.toList
  ((parts.filter (· ≠ [])).map String.ofList).mergeSort (fun a b => !(b < a))
where
  /-- The parts between ampersands. -/
  splitAmp : List Char → List (List Char)
    | [] => [[]]
    | '&' :: cs => [] :: splitAmp cs
    | c :: cs => match splitAmp cs with
      | [] => [[c]]
      | part :: rest => (c :: part) :: rest

end VirtualNode.Text.Url
