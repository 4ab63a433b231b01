import VirtualNode.Json.Reader

/-!
# Rows: records of named scalars

A record with a fixed list of fields, each a string or a 64-bit signed integer, is written as an
object or as an array of its first values.  A field may have a second name.  Names that belong to
no field are passed over; a field given twice, under whichever names, does not fit.

A row can be taken from a document that has been read, or read straight from the input.  The
second way stops at the first thing that does not fit, and passes over what belongs to no field
without decoding it.
-/

set_option autoImplicit false

namespace VirtualNode.Json

open VirtualNode.Text (Symbol)

/-- What a field holds. -/
inductive Scalar where
  | text (s : String)
  | whole (n : Int)
  deriving DecidableEq, Repr, Inhabited

/-- The kind of a field. -/
inductive ScalarKind where
  | text
  | whole
  deriving DecidableEq, Repr, Inhabited

/-- A field of a record. -/
structure Field where
  /-- The name that is written. -/
  name : String
  /-- A second name that is accepted. -/
  otherName : Option String
  kind : ScalarKind
  required : Bool
  deriving DecidableEq, Repr, Inhabited

/-- The values of a record's fields, in the order of the fields. -/
abbrev Row := List (Option Scalar)

/-- Whether a member's name belongs to the field. -/
def Field.answersTo (f : Field) (name : String) : Bool :=
  f.name = name || f.otherName = some name

/-- A number that fits a signed 64-bit word. -/
def fitsSigned (n : Int) : Bool :=
  -(Nat.pow 2 63 : Int) ≤ n && n < Nat.pow 2 63

/-- The scalar of a document, if it has the kind asked for. -/
def ScalarKind.ofValue? : ScalarKind → Value → Option Scalar
  | .text, .text s => some (.text s)
  | .whole, .number (.whole n) => if fitsSigned n then some (.whole n) else none
  | _, _ => none

namespace Row

/-- The row in which no field has a value yet. -/
def start (fields : List Field) : Row :=
  fields.map fun _ => none

/-- Whether every required field has a value. -/
def complete (fields : List Field) (row : Row) : Bool :=
  (fields.zip row).all fun (f, v) => !f.required || v.isSome

/-- The position of the field to which a name belongs. -/
def position? (fields : List Field) (name : String) : Option Nat :=
  fields.findIdx? (·.answersTo name)

/-- The kind of the field at a position. -/
def kindAt (fields : List Field) (i : Nat) : ScalarKind :=
  (fields[i]?.map Field.kind).getD .text

/-- Whether the field at a position already has a value. -/
def given (row : Row) (i : Nat) : Bool :=
  (row[i]?.join).isSome

/-- Enters the members of an object one after another. -/
def enter (fields : List Field) : Members → Row → Option Row
  | [], row => some row
  | (name, v) :: rest, row =>
    match position? fields name with
    | none => enter fields rest row
    | some i =>
      if given row i then none
      else match (kindAt fields i).ofValue? v with
        | none => none
        | some s => enter fields rest (row.set i (some s))

/-- Enters the items of an array: the first ones of the fields, and not more than there are. -/
def fill : List Field → List Value → Option Row
  | fs, [] => some (start fs)
  | [], _ :: _ => none
  | f :: fs, v :: vs => do
    let s ← f.kind.ofValue? v
    let row ← fill fs vs
    some (some s :: row)

/-- The row that a document holds. -/
def ofValue? (fields : List Field) (v : Value) : Option Row := do
  let row ← match v with
    | .object ms => enter fields ms (start fields)
    | .list vs => fill fields vs
    | _ => none
  if complete fields row then some row else none

/-! ## Reading a row from the input -/

/-- Why a document that is no scalar of the kind asked for stops the reading.  A scalar of another
kind is read to its end first. -/
def misfit (xs : List Symbol) : ReadError :=
  match xs with
  | [] => .truncated
  | some '[' :: _ | some '\x7b' :: _ => .mismatch
  | xs => match readDocument xs with
    | .error e => e
    | .ok _ => .mismatch

/-- Reads a scalar. -/
def readScalar (kind : ScalarKind) (xs : List Symbol) :
    Except ReadError (Scalar × List Symbol) :=
  let xs := skipBlanks xs
  match kind, xs with
  | .text, some '"' :: rest => (readText rest).map fun (s, r) => (.text s, r)
  | .text, xs => .error (misfit xs)
  | .whole, xs =>
    let found := match xs with
      | some '-' :: rest => some (readNumber true rest)
      | x :: _ => if (digit? x).isSome then some (readNumber false xs) else none
      | [] => none
    match found with
    | none => .error (misfit xs)
    | some (.error e) => .error e
    | some (.ok (.whole n, rest)) =>
      if fitsSigned n then .ok (.whole n, rest) else .error .mismatch
    | some (.ok (.decimal _ _, _)) => .error .mismatch

/-- Accepts the closing bracket after the last field of an array. -/
def readClose (xs : List Symbol) : Except ReadError (List Symbol) :=
  match skipBlanks xs with
  | [] => .error .truncated
  | some ']' :: rest => .ok rest
  | _ => .error .malformed

/-- Reads the values of an array, `first` saying that none has been read. -/
def readFill (first : Bool) : List Field → List Symbol → Except ReadError (Row × List Symbol)
  | [], xs => do
    let rest ← readClose xs
    .ok ([], rest)
  | f :: fs, xs =>
    match skipBlanks xs with
    | [] => .error .truncated
    | some ']' :: rest =>
      if (f :: fs).any (·.required) then .error .mismatch else .ok (start (f :: fs), rest)
    | some ',' :: rest =>
      if first then .error .malformed
      else match skipBlanks rest with
        | some ']' :: _ => .error .malformed
        | rest => do
          let (s, rest) ← readScalar f.kind rest
          let (row, rest) ← readFill false fs rest
          .ok (some s :: row, rest)
    | xs =>
      if first then do
        let (s, rest) ← readScalar f.kind xs
        let (row, rest) ← readFill false fs rest
        .ok (some s :: row, rest)
      else .error .malformed

/-- Reads a member after the opening quote of its name, and the members that follow. -/
def readEntries (fields : List Field) (fuel : Nat) (row : Row) (xs : List Symbol) :
    Except ReadError (Row × List Symbol) :=
  match fuel with
  | 0 => .error .malformed
  | fuel + 1 => do
    let (name, rest) ← readText xs
    let (row, rest) ← match position? fields name with
      | none => do
        let rest ← readColon rest
        let rest ← skipDocument rest
        .ok (row, rest)
      | some i =>
        if given row i then .error .mismatch
        else do
          let rest ← readColon rest
          let (s, rest) ← readScalar (kindAt fields i) rest
          .ok (row.set i (some s), rest)
    match skipBlanks rest with
    | [] => .error .truncated
    | some '\x7d' :: rest => .ok (row, rest)
    | some ',' :: rest =>
      match skipBlanks rest with
      | [] => .error .truncated
      | some '"' :: rest => readEntries fields fuel row rest
      | _ => .error .malformed
    | _ => .error .malformed

/-- Reads the members of an object after its opening brace. -/
def readObject (fields : List Field) (xs : List Symbol) : Except ReadError (Row × List Symbol) :=
  match skipBlanks xs with
  | [] => .error .truncated
  | some '\x7d' :: rest => .ok (start fields, rest)
  | some '"' :: rest => readEntries fields xs.length (start fields) rest
  | _ => .error .malformed

/-- Reads a whole input that is one record. -/
def decode (fields : List Field) (xs : List Symbol) : Except ReadError Row := do
  let (row, rest) ← match skipBlanks xs with
    | some '[' :: rest => readFill true fields rest
    | some '\x7b' :: rest => readObject fields rest
    | xs => .error (misfit xs)
  if complete fields row then
    readEnd rest
    .ok row
  else .error .mismatch

end Row

/-- The string of a scalar that is one. -/
def Scalar.string? : Scalar → Option String
  | .text s => some s
  | .whole _ => none

/-- The string of a field, the empty string if it has none. -/
def Row.string (row : Row) (i : Nat) : String :=
  ((row[i]?.join).bind Scalar.string?).getD ""

/-- The integer of a field, zero if it has none. -/
def Row.integer (row : Row) (i : Nat) : Int :=
  match row[i]?.join with
  | some (.whole n) => n
  | _ => 0

end VirtualNode.Json
