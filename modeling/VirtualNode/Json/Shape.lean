import VirtualNode.Json.Reader
import VirtualNode.Json.Writer
import VirtualNode.Time.Reading

/-!
# Shapes of documents

A shape says what a document may hold: which members an object has, what each of them may be, and
what stands for a member that is not given.  Reading by a shape takes a document from its text and
returns it in a settled form: the members that the shape names, each of them at most once and in
the order of the shape, points in time in UTC.  Members that the shape does not name are passed
over.

How strictly an object is read is a matter of its `Manner`.  Main definitions: `Shape.read?` for a
text, `Shape.fit?` for a document that has been read already.
-/

set_option autoImplicit false

namespace VirtualNode.Json

open VirtualNode.Text (Symbol)

/-- What stands for a member that is not given, or that is null. -/
inductive Fallback where
  /-- Nothing does: the object is refused. -/
  | refuse
  /-- The member is left out. -/
  | leaveOut
  /-- The given document does. -/
  | stand (v : Value)
  deriving Repr, Inhabited

/-- How much a member is needed. -/
structure Need where
  ifAbsent : Fallback
  ifNull : Fallback
  deriving Repr, Inhabited

namespace Need

/-- A member that may be absent or null. -/
def optional : Need := ⟨.leaveOut, .leaveOut⟩

/-- A member for which a document stands where it is absent or null. -/
def standing (v : Value) : Need := ⟨.stand v, .stand v⟩

/-- A member that may be absent but not null. -/
def defaulted (v : Value) : Need := ⟨.stand v, .refuse⟩

/-- A member that may be absent but not null, and for which nothing stands. -/
def skippable : Need := ⟨.leaveOut, .refuse⟩

end Need

/-- How an object is read. -/
structure Manner where
  /-- A member that is given again takes the place of the earlier one. -/
  repeats : Bool
  /-- The values of the members may be given as a list, in the order of the shape. -/
  asList : Bool
  /-- Members that the shape does not name have to be exact all the same. -/
  exactOthers : Bool
  deriving DecidableEq, Repr, Inhabited

namespace Manner

/-- The last one of repeated members counts, and foreign members do not matter. -/
def lenient : Manner := ⟨true, false, false⟩

/-- No member may be repeated, and a list of values will do. -/
def record : Manner := ⟨false, true, false⟩

/-- No member may be repeated, and foreign members have to be exact. -/
def strict : Manner := ⟨false, false, true⟩

end Manner

/-- What a document may be. -/
inductive Shape where
  | text
  | truth
  /-- A whole number between two bounds. -/
  | whole (least most : Int)
  /-- A text, or a whole number between two bounds. -/
  | wholeOrText (least most : Int)
  /-- One of some words. -/
  | word (allowed : List String)
  /-- One of some words, which may also be the name of the only member of an object, a null one. -/
  | choice (allowed : List String)
  /-- A point in time, shown in whole seconds. -/
  | stamp
  /-- A point in time, shown with its fraction of a second. -/
  | instant
  /-- Any document that is exact. -/
  | anything
  | list (item : Shape)
  /-- An object with members of any names. -/
  | table (value : Shape)
  | object (manner : Manner) (fields : List (String × Need × Shape))

/-- A member that a shape names. -/
abbrev ShapeField := String × Need × Shape

/-- What was read of a member: its name and its value, none standing for null. -/
abbrev Found := List (String × Option Value)

/-- Makes the objects of members that have been read. -/
def settle (manner : Manner) (found : Found) : List ShapeField → Except ReadError Members
  | [] => .ok []
  | (name, need, _) :: fields => do
    let rest ← settle manner found fields
    let given := (found.filter fun m => m.1 = name).map Prod.snd
    if !manner.repeats && 1 < given.length then .error .mismatch
    else
      let standIn (f : Fallback) : Except ReadError Members := match f with
        | .refuse => .error .mismatch
        | .leaveOut => .ok rest
        | .stand v => .ok ((name, v) :: rest)
      match given.getLast? with
      | none => standIn need.ifAbsent
      | some none => standIn need.ifNull
      | some (some v) => .ok ((name, v) :: rest)

/-- The members of a table, of which the last one of each name counts. -/
def lastOnes : Members → Members
  | [] => []
  | (name, v) :: rest =>
    if rest.any fun m => m.1 = name then lastOnes rest else (name, v) :: lastOnes rest

namespace Shape

/-- Reads a text. -/
def readString (xs : List Symbol) : Except ReadError (String × List Symbol) :=
  match skipBlanks xs with
  | some '"' :: rest => readText rest
  | [] => .error .truncated
  | _ => .error .mismatch

/-- Reads a number. -/
def readAnyNumber (xs : List Symbol) : Except ReadError (Number × List Symbol) :=
  match skipBlanks xs with
  | some '-' :: rest => readNumber true rest
  | x :: rest => if (digit? x).isSome then readNumber false (x :: rest) else .error .mismatch
  | [] => .error .truncated

/-- Reads a whole number between two bounds. -/
def readWhole (least most : Int) (xs : List Symbol) : Except ReadError (Value × List Symbol) := do
  match ← readAnyNumber xs with
  | (.whole n, rest) =>
    if least ≤ n && n ≤ most then .ok (.ofInt n, rest) else .error .mismatch
  | (.decimal _ _, _) => .error .mismatch

/-- Reads a truth value. -/
def readTruth (xs : List Symbol) : Except ReadError (Value × List Symbol) :=
  match skipBlanks xs with
  | some 't' :: rest => (readWord ['r', 'u', 'e'] rest).map fun r => (.bool true, r)
  | some 'f' :: rest => (readWord ['a', 'l', 's', 'e'] rest).map fun r => (.bool false, r)
  | _ => .error .mismatch

/-- Reads a point in time and shows it by `show`. -/
def readStamp (text : Time.Stamp → String) (xs : List Symbol) :
    Except ReadError (Value × List Symbol) := do
  let (s, rest) ← readString xs
  match Time.Stamp.parseFreely? s with
  | some t => .ok (.text (text t), rest)
  | none => .error .mismatch

/-- Reads one of some words. -/
def readAllowed (allowed : List String) (xs : List Symbol) :
    Except ReadError (Value × List Symbol) := do
  let (s, rest) ← readString xs
  if allowed.contains s then .ok (.text s, rest) else .error .mismatch

/-- Reads a word that is allowed, or an object whose only member has it as its name. -/
def readChoice (allowed : List String) (xs : List Symbol) :
    Except ReadError (Value × List Symbol) :=
  match skipBlanks xs with
  | some '\x7b' :: rest => do
    let (v, rest) ← readAllowed allowed rest
    let rest ← readColon rest
    match skipBlanks rest with
    | some 'n' :: rest => do
      let rest ← readWord ['u', 'l', 'l'] rest
      match skipBlanks rest with
      | some '\x7d' :: rest => .ok (v, rest)
      | _ => .error .malformed
    | _ => .error .mismatch
  | xs => readAllowed allowed xs

/-- What follows the word for null, if it stands here. -/
def afterNull? (xs : List Symbol) : Option (List Symbol) :=
  match skipBlanks xs with
  | some 'n' :: rest => (readWord ['u', 'l', 'l'] rest).toOption
  | _ => none

/-- The last step of reading a container: its closing mark, or a comma before what is next. -/
inductive Turn where
  | close (rest : List Symbol)
  | next (rest : List Symbol)

/-- Reads a closing mark or a comma. -/
def readTurn (closing : Char) (xs : List Symbol) : Except ReadError Turn :=
  match skipBlanks xs with
  | some ',' :: rest => .ok (.next rest)
  | some c :: rest => if c = closing then .ok (.close rest) else .error .malformed
  | [] => .error .truncated
  | _ => .error .malformed

/-- Reads the name of a member and the colon after it. -/
def readName (xs : List Symbol) : Except ReadError (String × List Symbol) := do
  let (name, rest) ← readString xs
  let rest ← readColon rest
  .ok (name, rest)

mutual

/-- Reads a document of a shape.  `fuel` exceeds the number of symbols, `room` is the number of
containers that may still be opened. -/
def read (shape : Shape) (fuel room : Nat) (xs : List Symbol) :
    Except ReadError (Value × List Symbol) :=
  match fuel with
  | 0 => .error .malformed
  | fuel + 1 =>
    match shape with
    | .text => (readString xs).map fun (s, r) => (.text s, r)
    | .truth => readTruth xs
    | .whole least most => readWhole least most xs
    | .wholeOrText least most =>
      match skipBlanks xs with
      | some '"' :: rest => (readText rest).map fun (s, r) => (.text s, r)
      | xs => readWhole least most xs
    | .word allowed => readAllowed allowed xs
    | .choice allowed => readChoice allowed xs
    | .stamp => readStamp Time.Stamp.text xs
    | .instant => readStamp Time.Stamp.textNanos xs
    | .anything => readValue .exact (4 * xs.length + 4) room xs
    | .list item =>
      match skipBlanks xs, room with
      | some '[' :: rest, room + 1 =>
        match skipBlanks rest with
        | some ']' :: rest => .ok (.list [], rest)
        | rest => (readEach item fuel room rest).map fun (vs, r) => (.list vs, r)
      | _, _ => .error .mismatch
    | .table value =>
      match skipBlanks xs, room with
      | some '\x7b' :: rest, room + 1 =>
        match skipBlanks rest with
        | some '\x7d' :: rest => .ok (.object [], rest)
        | rest => (readNamed value fuel room rest).map fun (ms, r) => (.object (lastOnes ms), r)
      | _, _ => .error .mismatch
    | .object manner fields =>
      match skipBlanks xs, room with
      | some '\x7b' :: rest, room + 1 => do
        let (found, rest) ← match skipBlanks rest with
          | some '\x7d' :: rest => .ok ([], rest)
          | rest => readFields manner fields fuel room rest
        .ok (.object (← settle manner found fields), rest)
      | some '[' :: rest, room + 1 =>
        if manner.asList then do
          let (found, rest) ← match skipBlanks rest with
            | some ']' :: rest => .ok ([], rest)
            | rest => readInOrder fields fuel room rest
          .ok (.object (← settle manner found fields), rest)
        else .error .mismatch
      | _, _ => .error .mismatch
termination_by structural fuel

/-- Reads the items of a list that is not empty. -/
def readEach (item : Shape) (fuel room : Nat) (xs : List Symbol) :
    Except ReadError (List Value × List Symbol) :=
  match fuel with
  | 0 => .error .malformed
  | fuel + 1 => do
    let (v, rest) ← read item fuel room xs
    match ← readTurn ']' rest with
    | .close rest => .ok ([v], rest)
    | .next rest => do
      let (vs, rest) ← readEach item fuel room rest
      .ok (v :: vs, rest)
termination_by structural fuel

/-- Reads the members of a table that is not empty. -/
def readNamed (value : Shape) (fuel room : Nat) (xs : List Symbol) :
    Except ReadError (Members × List Symbol) :=
  match fuel with
  | 0 => .error .malformed
  | fuel + 1 => do
    let (name, rest) ← readName xs
    let (v, rest) ← read value fuel room rest
    match ← readTurn '\x7d' rest with
    | .close rest => .ok ([(name, v)], rest)
    | .next rest => do
      let (ms, rest) ← readNamed value fuel room rest
      .ok ((name, v) :: ms, rest)
termination_by structural fuel

/-- Reads a member that is needed in a certain way; none stands for null. -/
def readMemberOf (need : Need) (shape : Shape) (fuel room : Nat) (xs : List Symbol) :
    Except ReadError (Option Value × List Symbol) :=
  match fuel with
  | 0 => .error .malformed
  | fuel + 1 =>
    match need.ifNull, afterNull? xs with
    | .refuse, _ | _, none => (read shape fuel room xs).map fun (v, r) => (some v, r)
    | _, some rest => .ok (none, rest)
termination_by structural fuel

/-- Reads the members of an object that is not empty. -/
def readFields (manner : Manner) (fields : List ShapeField) (fuel room : Nat)
    (xs : List Symbol) : Except ReadError (Found × List Symbol) :=
  match fuel with
  | 0 => .error .malformed
  | fuel + 1 => do
    let (name, rest) ← readName xs
    let (entry, rest) ← match fields.find? fun f => f.1 = name with
      | some (_, need, shape) =>
        (readMemberOf need shape fuel room rest).map fun (v?, r) => ([(name, v?)], r)
      | none =>
        if manner.exactOthers then
          (readValue .exact (4 * rest.length + 4) room rest).map fun (_, r) => ([], r)
        else (skipDocument rest).map fun r => ([], r)
    match ← readTurn '\x7d' rest with
    | .close rest => .ok (entry, rest)
    | .next rest => do
      let (found, rest) ← readFields manner fields fuel room rest
      .ok (entry ++ found, rest)
termination_by structural fuel

/-- Reads the values of members in their order, from a list that is not empty. -/
def readInOrder (fields : List ShapeField) (fuel room : Nat) (xs : List Symbol) :
    Except ReadError (Found × List Symbol) :=
  match fuel, fields with
  | 0, _ => .error .malformed
  | _ + 1, [] => .error .malformed
  | fuel + 1, (name, need, shape) :: fields => do
    let (v?, rest) ← readMemberOf need shape fuel room xs
    match ← readTurn ']' rest with
    | .close rest => .ok ([(name, v?)], rest)
    | .next rest => do
      let (found, rest) ← readInOrder fields fuel room rest
      .ok ((name, v?) :: found, rest)
termination_by structural fuel

end

/-- The settled form of a whole text of a shape. -/
def read? (shape : Shape) (text : String) : Option Value :=
  let xs := Text.Symbols.ofString text
  match shape.read (4 * xs.length + 4) maxDepth xs with
  | .ok (v, rest) => if (readEnd rest).isOk then some v else none
  | .error _ => none

/-- The settled form of a document of a shape. -/
def fit? (shape : Shape) (v : Value) : Option Value :=
  shape.read? v.write

end Shape

end VirtualNode.Json
