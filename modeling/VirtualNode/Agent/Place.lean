/-!
# Places in settings

A setting is addressed by a name, and a part of it by steps after the name: a dot and a further
name lead to a member, a number in brackets leads to an item.  A text that is not made in this way
is a name as a whole.
-/

set_option autoImplicit false

namespace VirtualNode.Agent

/-- A place in settings. -/
structure Place where
  /-- The name of the setting. -/
  root : String
  /-- Whether only a part of the setting is meant. -/
  isPart : Bool
  deriving DecidableEq, Repr, Inhabited

namespace Place

/-- A character of a name that steps may follow. -/
def isNameChar (c : Char) : Bool := c.isAlphanum || c = ' ' || c = '_' || c = '-'

/-- A character that may stand around the number of an item. -/
def isPadding (c : Char) : Bool := c = ' ' || c = '\t'

/-- Whether a number fits a signed 64-bit word. -/
def fitsWord (negative : Bool) (digits : List Char) : Bool :=
  let n := digits.foldl (fun n d => n * 10 + (d.toNat - 48)) 0
  if negative then n ≤ Nat.pow 2 63 else n < Nat.pow 2 63

/-- What follows the number of an item and its closing bracket. -/
def afterIndex? (cs : List Char) : Option (List Char) :=
  let cs := cs.dropWhile isPadding
  let negative := cs.head? = some '-'
  let cs := if negative then cs.drop 1 else cs
  let digits := cs.takeWhile Char.isDigit
  match (cs.dropWhile Char.isDigit).dropWhile isPadding with
  | ']' :: rest => if digits.isEmpty || !fitsWord negative digits then none else some rest
  | _ => none

/-- What follows a step. -/
def afterStep? : List Char → Option (List Char)
  | '.' :: cs =>
    if (cs.takeWhile isNameChar).isEmpty then none else some (cs.dropWhile isNameChar)
  | '[' :: cs => afterIndex? cs
  | _ => none

/-- Whether a text consists of at most `count` steps. -/
def areSteps : (count : Nat) → List Char → Bool
  | _, [] => true
  | 0, _ :: _ => false
  | count + 1, cs =>
    match afterStep? cs with
    | some rest => areSteps count rest
    | none => false

/-- The place that a text addresses. -/
def ofName (name : String) : Place :=
  let cs := name.toList
  let root := cs.takeWhile isNameChar
  let steps := cs.dropWhile isNameChar
  if !root.isEmpty && !steps.isEmpty && areSteps steps.length steps then
    ⟨String.ofList root, true⟩
  else ⟨name, false⟩

end Place

end VirtualNode.Agent
