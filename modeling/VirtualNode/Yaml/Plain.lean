import VirtualNode.Text.Hex

/-!
# Plain scalars

What a scalar without quotes is: null, a truth value, a number, or else a text.  Numbers are
whole, in base ten or behind a mark of their base, or decimal fractions; digits with zeros before
them are a text.
-/

set_option autoImplicit false

namespace VirtualNode.Yaml

/-- A scalar. -/
inductive Scalar where
  | null
  | truth (b : Bool)
  | whole (n : Int)
  | fraction (x : Float)
  | text (s : String)
  deriving Repr, Inhabited

namespace Scalar

/-- Whether two scalars are the same.  A whole number is never the same as a fraction; what is no
number is the same as itself. -/
def same : Scalar → Scalar → Bool
  | null, null => true
  | truth a, truth b => a = b
  | whole m, whole n => m = n
  | fraction x, fraction y => x == y || (x.isNaN && y.isNaN)
  | text s, text t => s = t
  | _, _ => false

/-! ## Words -/

/-- Reads null. -/
def isNull (s : String) : Bool := ["~", "null", "Null", "NULL"].contains s

/-- Reads a truth value. -/
def truth? (s : String) : Option Bool :=
  if ["true", "True", "TRUE"].contains s then some true
  else if ["false", "False", "FALSE"].contains s then some false
  else none

/-! ## Whole numbers -/

/-- The number that one or more digits of a base stand for. -/
def natOf? (base : Nat) (cs : List Char) : Option Nat := do
  let digits ← cs.mapM Text.Hex.digit?
  guard (!digits.isEmpty && digits.all (· < base))
  return digits.foldl (fun n d => n * base + d) 0

/-- Digits with a zero before them, which are no number. -/
def isPadded : List Char → Bool
  | '0' :: c :: rest => (c :: rest).all Char.isDigit
  | _ => false

/-- The number without a sign that a text stands for. -/
def magnitude? : List Char → Option Nat
  | '0' :: 'x' :: cs => natOf? 16 cs
  | '0' :: 'o' :: cs => natOf? 8 cs
  | '0' :: 'b' :: cs => natOf? 2 cs
  | cs => if isPadded cs then none else natOf? 10 cs

/-- Reads a whole number. -/
def wholeOf? : List Char → Option Int
  | '-' :: cs => (magnitude? cs).map fun n => -(n : Int)
  | '+' :: cs | cs => (magnitude? cs).map fun n => (n : Int)

/-- Whether a whole number fits a word of some bits, with or without a sign. -/
def fits (bits : Nat) (n : Int) : Bool :=
  -(Nat.pow 2 (bits - 1) : Int) ≤ n && n < (Nat.pow 2 bits : Int)

/-! ## Fractions -/

/-- A decimal fraction: a number times a power of ten. -/
structure Decimal where
  digits : Nat
  exponent : Int
  deriving Repr, Inhabited

/-- Reads the exponent of a fraction. -/
def exponentOf? : List Char → Option Int
  | [] => some 0
  | e :: cs =>
    if e ≠ 'e' && e ≠ 'E' then none
    else match cs with
      | '-' :: cs => (natOf? 10 cs).map fun n => -(n : Int)
      | '+' :: cs | cs => (natOf? 10 cs).map fun n => (n : Int)

/-- Reads a fraction without a sign: digits, of which there is one at least, with a point before,
between or behind them, and an exponent.  The point and the exponent may be missing. -/
def decimalOf? (cs : List Char) : Option Decimal := do
  let before := cs.takeWhile Char.isDigit
  let rest := cs.dropWhile Char.isDigit
  let behind := if rest.head? = some '.' then (rest.drop 1).takeWhile Char.isDigit else []
  let rest := if rest.head? = some '.' then (rest.drop 1).dropWhile Char.isDigit else rest
  return ⟨← natOf? 10 (before ++ behind), (← exponentOf? rest) - behind.length⟩

/-- The double that is nearest to a fraction, if it is finite. -/
def Decimal.toFloat? (d : Decimal) : Option Float :=
  let scale := (Nat.toDigits 10 d.digits).length + d.exponent
  if d.digits = 0 || scale < -400 then some 0
  else if 400 < scale then none
  else
    let x := Float.ofScientific d.digits (d.exponent < 0) d.exponent.natAbs
    if x.isFinite then some x else none

/-- Reads a fraction, or the word for what is infinite or no number. -/
def fractionOf? (cs : List Char) : Option Float :=
  let words := [".inf", ".Inf", ".INF"].map String.toList
  let infinity : Float := 1 / 0
  match cs with
  | '-' :: body =>
    if words.contains body then some (-infinity)
    else ((decimalOf? body).bind Decimal.toFloat?).map fun x => -x
  | '+' :: body | body =>
    if words.contains body then some infinity
    else if [".nan", ".NaN", ".NAN"].contains (String.ofList cs) then some (0 / 0)
    else (decimalOf? body).bind Decimal.toFloat?

/-! ## All together -/

/-- What a scalar without quotes is.  A whole number of more than sixty-four bits is unreadable,
unless it takes more than a hundred and twenty-eight. -/
def ofPlain? (cs : List Char) : Option Scalar :=
  let s := String.ofList cs
  let fractionOrText : Scalar :=
    if isPadded (if cs.head? = some '+' || cs.head? = some '-' then cs.drop 1 else cs) then text s
    else match fractionOf? cs with
      | some x => fraction x
      | none => text s
  if cs.isEmpty || isNull s then some null
  else match truth? s, wholeOf? cs with
    | some b, _ => some (truth b)
    | none, some n =>
      if fits 64 n then some (whole n)
      else if fits 128 n then none
      else some fractionOrText
    | none, none => some fractionOrText

end Scalar

end VirtualNode.Yaml
