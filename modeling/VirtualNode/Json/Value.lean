/-!
# JSON values

A JSON document as a value.  Members keep the order and the repetitions of the text.  A number
is a whole number when its text has neither fraction nor exponent and it fits a 64-bit word,
signed or unsigned; every other number keeps its decimal digits.
-/

set_option autoImplicit false

namespace VirtualNode.Json

/-- A number as it was written. -/
inductive Number where
  /-- A whole number that fits a 64-bit word. -/
  | whole (n : Int)
  /-- The decimal number `mantissa * 10 ^ exponent`. -/
  | decimal (mantissa exponent : Int)
  deriving DecidableEq, Repr, Inhabited

/-- The double-precision number that is nearest to a number. -/
def Number.toFloat : Number → Float
  | .whole n => Float.ofInt n
  | .decimal m e =>
    let x := Float.ofScientific m.natAbs (e < 0) e.natAbs
    if m < 0 then -x else x

/-- A JSON document. -/
inductive Value where
  | null
  | bool (b : Bool)
  | number (n : Number)
  | text (s : String)
  | list (items : List Value)
  | object (members : List (String × Value))
  deriving Repr, Inhabited

/-- The members of an object, in the order of the text. -/
abbrev Members := List (String × Value)

namespace Value

mutual

/-- Equality of documents is decidable. -/
def decEq : (a b : Value) → Decidable (a = b)
  | .null, .null => isTrue rfl
  | .bool a, .bool b => decidable_of_iff (a = b) (by simp)
  | .number a, .number b => decidable_of_iff (a = b) (by simp)
  | .text a, .text b => decidable_of_iff (a = b) (by simp)
  | .list a, .list b =>
    match decEqItems a b with
    | isTrue h => isTrue (by rw [h])
    | isFalse h => isFalse (fun e => h (by simpa using e))
  | .object a, .object b =>
    match decEqMembers a b with
    | isTrue h => isTrue (by rw [h])
    | isFalse h => isFalse (fun e => h (by simpa using e))
  | .null, .bool _ | .null, .number _ | .null, .text _ | .null, .list _ | .null, .object _
  | .bool _, .null | .bool _, .number _ | .bool _, .text _ | .bool _, .list _ | .bool _, .object _
  | .number _, .null | .number _, .bool _ | .number _, .text _ | .number _, .list _
  | .number _, .object _
  | .text _, .null | .text _, .bool _ | .text _, .number _ | .text _, .list _ | .text _, .object _
  | .list _, .null | .list _, .bool _ | .list _, .number _ | .list _, .text _ | .list _, .object _
  | .object _, .null | .object _, .bool _ | .object _, .number _ | .object _, .text _
  | .object _, .list _ => isFalse (by simp)

/-- Equality of lists of documents is decidable. -/
def decEqItems : (a b : List Value) → Decidable (a = b)
  | [], [] => isTrue rfl
  | [], _ :: _ => isFalse (by simp)
  | _ :: _, [] => isFalse (by simp)
  | x :: xs, y :: ys =>
    match decEq x y, decEqItems xs ys with
    | isTrue h, isTrue hs => isTrue (by rw [h, hs])
    | isFalse h, _ => isFalse (fun e => h (by simp at e; exact e.1))
    | _, isFalse hs => isFalse (fun e => hs (by simp at e; exact e.2))

/-- Equality of lists of members is decidable. -/
def decEqMembers : (a b : List (String × Value)) → Decidable (a = b)
  | [], [] => isTrue rfl
  | [], _ :: _ => isFalse (by simp)
  | _ :: _, [] => isFalse (by simp)
  | (k, x) :: xs, (l, y) :: ys =>
    if hk : k = l then
      match decEq x y, decEqMembers xs ys with
      | isTrue h, isTrue hs => isTrue (by rw [hk, h, hs])
      | isFalse h, _ => isFalse (fun e => h (by simp at e; exact e.1.2))
      | _, isFalse hs => isFalse (fun e => hs (by simp at e; exact e.2))
    else isFalse (fun e => hk (by simp at e; exact e.1.1))

end

instance : DecidableEq Value := decEq

/-- The members of an object; none for any other document. -/
def members? : Value → Option Members
  | .object ms => some ms
  | _ => none

/-- The text of a text document. -/
def text? : Value → Option String
  | .text s => some s
  | _ => none

/-- The truth value of a document that is one. -/
def bool? : Value → Option Bool
  | .bool b => some b
  | _ => none

/-- The whole number of a document that is one. -/
def whole? : Value → Option Int
  | .number (.whole n) => some n
  | _ => none

/-- The items of a list document. -/
def items? : Value → Option (List Value)
  | .list xs => some xs
  | _ => none

/-- The document of whole number `n`. -/
def ofInt (n : Int) : Value := .number (.whole n)

end Value

namespace Members

/-- The value of a member: the last one of that name. -/
def get? (ms : Members) (name : String) : Option Value :=
  (ms.reverse.find? fun m => m.1 = name).map Prod.snd

/-- The value of a member, a null value counting as absent. -/
def present? (ms : Members) (name : String) : Option Value :=
  match get? ms name with
  | some .null => none
  | v => v

/-- The members with none of the given names, null values left out. -/
def others (ms : Members) (names : List String) : Members :=
  ms.filter fun m => !names.contains m.1 && m.2 ≠ .null

end Members

/-- A member that is written only if there is a value. -/
def optional {α : Type} (name : String) (write : α → Value) : Option α → Members
  | none => []
  | some a => [(name, write a)]

end VirtualNode.Json
