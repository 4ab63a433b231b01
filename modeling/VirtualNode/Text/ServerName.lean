import VirtualNode.Text.Hex

/-!
# Names of servers

What a server may be called: a name of labels that points separate, or an address of four or of
sixteen bytes.
-/

set_option autoImplicit false

namespace VirtualNode.Text.ServerName

/-! ## Names -/

/-- A character of a label. -/
def isLabelChar (c : Char) : Bool := c.isAlphanum || c = '-' || c = '_'

/-- Whether a text is a label: it neither begins nor ends with a hyphen. -/
def isLabel (cs : List Char) : Bool :=
  cs.all isLabelChar && !cs.isEmpty && cs.length ≤ 63
    && cs.head? ≠ some '-' && cs.getLast? ≠ some '-'

/-- Whether a text is a name.  The last label does not consist of digits only; one more point may
stand behind it. -/
def isName (cs : List Char) : Bool :=
  let labels := cs.splitOn '.'
  let labels := if labels.getLast? = some [] then labels.dropLast else labels
  !labels.isEmpty && labels.all isLabel && cs.length ≤ 253
    && !(labels.getLast?.any fun label => label.all Char.isDigit)

/-! ## Addresses -/

/-- Whether a text is a byte in base ten. -/
def isByte (cs : List Char) : Bool :=
  cs.all Char.isDigit && !cs.isEmpty && cs.length ≤ 3
    && (cs.length = 1 || cs.head? ≠ some '0')
    && cs.foldl (fun n c => n * 10 + (c.toNat - 48)) 0 ≤ 255

/-- Whether a text is an address of four bytes. -/
def isShortAddress (cs : List Char) : Bool :=
  let parts := cs.splitOn '.'
  parts.length = 4 && parts.all isByte

/-- Whether a text is two bytes in base sixteen. -/
def isGroup (cs : List Char) : Bool :=
  !cs.isEmpty && cs.length ≤ 4 && cs.all fun c => (Hex.digit? c).isSome

/-- The number of groups in a list of them.  If `mixed`, four bytes in base ten may stand for the
last two of them. -/
def countGroups? (mixed : Bool) (cs : List Char) : Option Nat :=
  let parts := cs.splitOn ':'
  if cs.isEmpty then some 0
  else if parts.all isGroup then some parts.length
  else if mixed && parts.dropLast.all isGroup && parts.getLast?.any isShortAddress then
    some (parts.length + 1)
  else none

/-- What stands before the first two colons and behind them. -/
def splitAtGap? : List Char → Option (List Char × List Char)
  | ':' :: ':' :: rest => some ([], rest)
  | c :: rest => (splitAtGap? rest).map fun (front, back) => (c :: front, back)
  | [] => none

/-- Whether a text is an address of sixteen bytes: eight groups, of which some in a row that are
zero may be left out. -/
def isLongAddress (cs : List Char) : Bool :=
  match splitAtGap? cs with
  | none => countGroups? true cs = some 8
  | some (front, back) =>
    match countGroups? false front, countGroups? true back with
    | some m, some n => m + n ≤ 7
    | _, _ => false

/-- Whether a server may be called so. -/
def isValid (s : String) : Bool :=
  isName s.toList || isShortAddress s.toList || isLongAddress s.toList

end VirtualNode.Text.ServerName
