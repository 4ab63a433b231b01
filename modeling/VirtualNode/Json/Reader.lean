import VirtualNode.Json.Value
import VirtualNode.Rounding
import VirtualNode.Text.Symbols

/-!
# Reading JSON

A reader takes the symbols that are left and answers with what it read and the symbols that are
left then, or with the reason why it stopped: the input ended early, or it is no JSON.

Two lexicons share the grammar.  The exact one decodes strings and numbers: a string must be made
of characters, an escaped surrogate must have its partner, and a number must not be too large for
a double.  The skipping one, for values that nobody asks for, checks only the form of a literal.
Containers may be nested 127 deep where the exact lexicon is used.
-/

set_option autoImplicit false

namespace VirtualNode.Json

open VirtualNode.Text (Symbol)

/-- Why reading stopped. -/
inductive ReadError where
  /-- The input ended before the document was complete. -/
  | truncated
  /-- The input is no JSON. -/
  | malformed
  /-- The document has another shape than the one asked for. -/
  | mismatch
  deriving DecidableEq, Repr, Inhabited


/-- The symbols after blanks. -/
def skipBlanks : List Symbol → List Symbol
  | some ' ' :: rest | some '\n' :: rest | some '\t' :: rest | some '\r' :: rest => skipBlanks rest
  | xs => xs

/-- Consumes the given characters. -/
def readWord : List Char → List Symbol → Except ReadError (List Symbol)
  | [], xs => .ok xs
  | _ :: _, [] => .error .truncated
  | c :: cs, x :: xs => if x = some c then readWord cs xs else .error .malformed

/-! ## Strings -/

/-- The value of a hexadecimal digit. -/
def hexValue? : Symbol → Option Nat
  | none => none
  | some c =>
    if '0' ≤ c ∧ c ≤ '9' then some (c.toNat - 48)
    else if 'a' ≤ c ∧ c ≤ 'f' then some (c.toNat - 87)
    else if 'A' ≤ c ∧ c ≤ 'F' then some (c.toNat - 55)
    else none

/-- Reads four hexadecimal digits; fewer than four bytes count as an input that ended early. -/
def readHex : List Symbol → Except ReadError (Nat × List Symbol)
  | a :: b :: c :: d :: rest =>
    match hexValue? a, hexValue? b, hexValue? c, hexValue? d with
    | some a, some b, some c, some d => .ok (((a * 16 + b) * 16 + c) * 16 + d, rest)
    | _, _, _, _ => .error .malformed
  | short =>
    if 4 ≤ Text.Symbols.byteLength short then .error .malformed else .error .truncated

/-- A code unit that begins a surrogate pair. -/
def isLeading (n : Nat) : Bool := 0xD800 ≤ n && n ≤ 0xDBFF

/-- A code unit that ends a surrogate pair. -/
def isTrailing (n : Nat) : Bool := 0xDC00 ≤ n && n ≤ 0xDFFF

/-- Reads the second half of a surrogate pair whose first half is `high`. -/
def readPartner (high : Nat) : List Symbol → Except ReadError (Symbol × List Symbol)
  | [] => .error .truncated
  | some '\\' :: [] => .error .truncated
  | some '\\' :: some 'u' :: rest =>
    match readHex rest with
    | .error e => .error e
    | .ok (low, rest) =>
      if isTrailing low then
        .ok (some (Char.ofNat (0x10000 + (high - 0xD800) * 1024 + (low - 0xDC00))), rest)
      else .error .malformed
  | _ => .error .malformed

/-- Reads what follows a backslash.  Where `exact` is false, code units are not paired. -/
def readEscape (exact : Bool) : List Symbol → Except ReadError (Symbol × List Symbol)
  | [] => .error .truncated
  | some '"' :: rest => .ok (some '"', rest)
  | some '\\' :: rest => .ok (some '\\', rest)
  | some '/' :: rest => .ok (some '/', rest)
  | some 'b' :: rest => .ok (some '\x08', rest)
  | some 'f' :: rest => .ok (some '\x0c', rest)
  | some 'n' :: rest => .ok (some '\n', rest)
  | some 'r' :: rest => .ok (some '\r', rest)
  | some 't' :: rest => .ok (some '\t', rest)
  | some 'u' :: rest =>
    match readHex rest with
    | .error e => .error e
    | .ok (n, rest) =>
      if !exact then .ok (none, rest)
      else if isLeading n then readPartner n rest
      else if isTrailing n then .error .malformed
      else .ok (some (Char.ofNat n), rest)
  | _ => .error .malformed

/-- The reader of hexadecimal digits leaves less to be read. -/
theorem length_readHex {xs rest : List Symbol} {n : Nat} (h : readHex xs = .ok (n, rest)) :
    rest.length < xs.length := by
  unfold readHex at h
  split at h
  · split at h
    · simp only [Except.ok.injEq, Prod.mk.injEq] at h
      simp only [← h.2, List.length_cons]
      omega
    · simp at h
  · split at h <;> simp at h

/-- The reader of the second half of a pair leaves less to be read. -/
theorem length_readPartner {xs rest : List Symbol} {high : Nat} {s : Symbol}
    (h : readPartner high xs = .ok (s, rest)) : rest.length < xs.length := by
  unfold readPartner at h
  split at h
  · simp at h
  · simp at h
  · split at h
    · simp at h
    · rename_i heq
      have := length_readHex heq
      split at h
      · simp only [Except.ok.injEq, Prod.mk.injEq] at h
        simp only [← h.2, List.length_cons]
        omega
      · simp at h
  · simp at h

/-- An escape consumes something. -/
theorem length_readEscape {exact : Bool} {xs rest : List Symbol} {s : Symbol}
    (h : readEscape exact xs = .ok (s, rest)) : rest.length < xs.length := by
  unfold readEscape at h
  split at h
  case h_10 =>
    split at h
    · simp at h
    · rename_i heq
      have hlt := length_readHex heq
      split at h
      · simp only [Except.ok.injEq, Prod.mk.injEq] at h
        simp only [← h.2, List.length_cons]
        omega
      · split at h
        · have := length_readPartner h
          simp only [List.length_cons]
          omega
        · split at h
          · simp at h
          · simp only [Except.ok.injEq, Prod.mk.injEq] at h
            simp only [← h.2, List.length_cons]
            omega
  all_goals first
    | (simp only [Except.ok.injEq, Prod.mk.injEq] at h; simp [← h.2])
    | simp at h

/-- Reads the rest of a string literal, up to and including the closing quote. -/
def readLiteral (exact : Bool) : List Symbol → Except ReadError (List Symbol × List Symbol)
  | [] => .error .truncated
  | some '"' :: rest => .ok ([], rest)
  | some '\\' :: rest =>
    match _h : readEscape exact rest with
    | .error e => .error e
    | .ok (s, rest) =>
      match readLiteral exact rest with
      | .error e => .error e
      | .ok (ss, rest) => .ok (s :: ss, rest)
  | s :: rest =>
    if s.any (·.toNat < 0x20) then .error .malformed
    else match readLiteral exact rest with
      | .error e => .error e
      | .ok (ss, rest) => .ok (s :: ss, rest)
termination_by xs => xs.length
decreasing_by
  · have := length_readEscape _h
    simp only [List.length_cons]
    omega
  · simp

/-- Reads the text of a string literal after its opening quote. -/
def readText (xs : List Symbol) : Except ReadError (String × List Symbol) := do
  let (ss, rest) ← readLiteral true xs
  match Text.Symbols.text? ss with
  | some s => .ok (s, rest)
  | none => .error .malformed

/-! ## Numbers -/

/-- The value of a decimal digit. -/
def digit? : Symbol → Option Nat
  | some c => if '0' ≤ c ∧ c ≤ '9' then some (c.toNat - 48) else none
  | none => none

/-- Splits off the digits in front. -/
def spanDigits : List Symbol → List Nat × List Symbol
  | [] => ([], [])
  | x :: xs => match digit? x with
    | some d => (d :: (spanDigits xs).1, (spanDigits xs).2)
    | none => ([], x :: xs)

/-- The number that decimal digits spell. -/
def ofDigits (ds : List Nat) : Nat :=
  ds.foldl (fun n d => n * 10 + d) 0

/-- The significant digits that fit 64 bits, and the power of ten that goes with them.  Whole
digits that no longer fit raise the power, fractional digits that do not fit are dropped. -/
def significant (whole fraction : List Nat) : Nat × Int :=
  let step := fun (acc : Nat × Int × Bool) (d : Nat) =>
    let (n, e, full) := acc
    if full || Nat.pow 2 64 ≤ n * 10 + d then (n, e + 1, true) else (n * 10 + d, e, false)
  let (n, e, _) := whole.foldl step (0, 0, false)
  let step := fun (acc : Nat × Int × Bool) (d : Nat) =>
    let (n, e, full) := acc
    if full || Nat.pow 2 64 ≤ n * 10 + d then (n, e, true) else (n * 10 + d, e - 1, false)
  let (n, e, _) := fraction.foldl step (n, e, false)
  (n, e)

/-- Whether `n * 10 ^ e`, both factors rounded to doubles first, is too large for a double. -/
def tooLarge (n : Nat) (e : Int) : Bool :=
  n != 0 && 0 ≤ e &&
    (308 < e || Nat.pow 2 1024 - Nat.pow 2 970
      ≤ Rounding.toDouble n * Rounding.toDouble (Nat.pow 10 e.toNat))

/-- A number from its digits: the whole part, the fraction and the exponent. -/
def numberOf (negative : Bool) (whole fraction : List Nat) (exponent : Int) (plain : Bool) :
    Except ReadError Number :=
  let n := ofDigits whole
  if plain && (if negative then 0 < n && n ≤ Nat.pow 2 63 else n < Nat.pow 2 64) then
    .ok (.whole (if negative then -n else n))
  else
    let (m, e) := significant whole fraction
    if tooLarge m (e + exponent) then .error .malformed
    else
      let m := (ofDigits (whole ++ fraction) : Int)
      .ok (.decimal (if negative then -m else m) (exponent - fraction.length))

/-- Reads the digits that have to stand here. -/
def readDigits (xs : List Symbol) : Except ReadError (List Nat × List Symbol) :=
  match spanDigits xs with
  | ([], []) => .error .truncated
  | ([], _) => .error .malformed
  | (ds, rest) => .ok (ds, rest)

/-- Reads an optional fraction. -/
def readFraction : List Symbol → Except ReadError (Option (List Nat) × List Symbol)
  | some '.' :: rest => do
    let (ds, rest) ← readDigits rest
    .ok (some ds, rest)
  | xs => .ok (none, xs)

/-- Reads an exponent after its letter. -/
def readPower : List Symbol → Except ReadError (Int × List Symbol)
  | some '+' :: rest => do
    let (ds, rest) ← readDigits rest
    .ok (ofDigits ds, rest)
  | some '-' :: rest => do
    let (ds, rest) ← readDigits rest
    .ok (-(ofDigits ds : Int), rest)
  | xs => do
    let (ds, rest) ← readDigits xs
    .ok (ofDigits ds, rest)

/-- Reads an optional exponent. -/
def readExponent : List Symbol → Except ReadError (Option Int × List Symbol)
  | some 'e' :: rest | some 'E' :: rest => do
    let (e, rest) ← readPower rest
    .ok (some e, rest)
  | xs => .ok (none, xs)

/-- Reads a number after its sign. -/
def readNumber (negative : Bool) (xs : List Symbol) : Except ReadError (Number × List Symbol) := do
  let (whole, rest) ← readDigits xs
  if whole.head? = some 0 ∧ whole.length ≠ 1 then .error .malformed
  else
    let (fraction, rest) ← readFraction rest
    let (exponent, rest) ← readExponent rest
    let n ← numberOf negative whole (fraction.getD []) (exponent.getD 0)
      (fraction.isNone && exponent.isNone)
    .ok (n, rest)

/-- Skips the digits that have to stand here; a missing digit is an error of form. -/
def skipDigits (xs : List Symbol) : Except ReadError (List Symbol) :=
  match spanDigits xs with
  | ([], _) => .error .malformed
  | (_, rest) => .ok rest

/-- Skips a number after its sign. -/
def skipNumber (xs : List Symbol) : Except ReadError (List Symbol) := do
  let (whole, rest) := spanDigits xs
  if whole = [] ∨ (whole.head? = some 0 ∧ whole.length ≠ 1) then .error .malformed
  else
    let rest ← match rest with
      | some '.' :: rest => skipDigits rest
      | rest => .ok rest
    match rest with
    | some 'e' :: some '+' :: rest | some 'e' :: some '-' :: rest
    | some 'E' :: some '+' :: rest | some 'E' :: some '-' :: rest => skipDigits rest
    | some 'e' :: rest | some 'E' :: rest => skipDigits rest
    | rest => .ok rest

/-! ## Documents -/

/-- How the literals of a document are read. -/
structure Lexicon where
  /-- Reads a string literal after its opening quote. -/
  text : List Symbol → Except ReadError (String × List Symbol)
  /-- Reads a number after its sign. -/
  number : Bool → List Symbol → Except ReadError (Number × List Symbol)

/-- Strings and numbers are decoded. -/
def Lexicon.exact : Lexicon where
  text := readText
  number := readNumber

/-- Strings and numbers are passed over. -/
def Lexicon.skipping : Lexicon where
  text xs := (readLiteral false xs).map fun (_, rest) => ("", rest)
  number _ xs := (skipNumber xs).map fun rest => (.whole 0, rest)

/-- Reads the colon after a member's name. -/
def readColon (xs : List Symbol) : Except ReadError (List Symbol) :=
  match skipBlanks xs with
  | some ':' :: rest => .ok rest
  | [] => .error .truncated
  | _ => .error .malformed

mutual

/-- Reads a document.  `fuel` exceeds the number of symbols, `room` is the number of containers
that may still be opened. -/
def readValue (lex : Lexicon) (fuel room : Nat) (xs : List Symbol) :
    Except ReadError (Value × List Symbol) :=
  match fuel with
  | 0 => .error .malformed
  | fuel + 1 =>
    match skipBlanks xs with
    | [] => .error .truncated
    | some 'n' :: rest => (readWord ['u', 'l', 'l'] rest).map fun r => (.null, r)
    | some 't' :: rest => (readWord ['r', 'u', 'e'] rest).map fun r => (.bool true, r)
    | some 'f' :: rest => (readWord ['a', 'l', 's', 'e'] rest).map fun r => (.bool false, r)
    | some '"' :: rest => (lex.text rest).map fun (s, r) => (.text s, r)
    | some '-' :: rest => (lex.number true rest).map fun (n, r) => (.number n, r)
    | some '[' :: rest =>
      match room with
      | 0 => .error .malformed
      | room + 1 => (readItems lex fuel room rest).map fun (vs, r) => (.list vs, r)
    | some '\x7b' :: rest =>
      match room with
      | 0 => .error .malformed
      | room + 1 => (readMembers lex fuel room rest).map fun (ms, r) => (.object ms, r)
    | x :: rest =>
      if (digit? x).isSome then (lex.number false (x :: rest)).map fun (n, r) => (.number n, r)
      else .error .malformed

/-- Reads the items of a list after its opening bracket. -/
def readItems (lex : Lexicon) (fuel room : Nat) (xs : List Symbol) :
    Except ReadError (List Value × List Symbol) :=
  match fuel with
  | 0 => .error .malformed
  | fuel + 1 =>
    match skipBlanks xs with
    | some ']' :: rest => .ok ([], rest)
    | xs => do
      let (v, rest) ← readValue lex fuel room xs
      let (vs, rest) ← readMoreItems lex fuel room rest
      .ok (v :: vs, rest)

/-- Reads what follows an item of a list. -/
def readMoreItems (lex : Lexicon) (fuel room : Nat) (xs : List Symbol) :
    Except ReadError (List Value × List Symbol) :=
  match fuel with
  | 0 => .error .malformed
  | fuel + 1 =>
    match skipBlanks xs with
    | [] => .error .truncated
    | some ']' :: rest => .ok ([], rest)
    | some ',' :: rest => do
      let (v, rest) ← readValue lex fuel room rest
      let (vs, rest) ← readMoreItems lex fuel room rest
      .ok (v :: vs, rest)
    | _ => .error .malformed

/-- Reads the members of an object after its opening brace. -/
def readMembers (lex : Lexicon) (fuel room : Nat) (xs : List Symbol) :
    Except ReadError (Members × List Symbol) :=
  match fuel with
  | 0 => .error .malformed
  | fuel + 1 =>
    match skipBlanks xs with
    | [] => .error .truncated
    | some '\x7d' :: rest => .ok ([], rest)
    | some '"' :: rest => readMember lex fuel room rest
    | _ => .error .malformed

/-- Reads a member after the opening quote of its name, and the members that follow. -/
def readMember (lex : Lexicon) (fuel room : Nat) (xs : List Symbol) :
    Except ReadError (Members × List Symbol) :=
  match fuel with
  | 0 => .error .malformed
  | fuel + 1 => do
    let (k, rest) ← lex.text xs
    let rest ← readColon rest
    let (v, rest) ← readValue lex fuel room rest
    match skipBlanks rest with
    | [] => .error .truncated
    | some '\x7d' :: rest => .ok ([(k, v)], rest)
    | some ',' :: rest =>
      match skipBlanks rest with
      | [] => .error .truncated
      | some '"' :: rest => do
        let (ms, rest) ← readMember lex fuel room rest
        .ok ((k, v) :: ms, rest)
      | _ => .error .malformed
    | _ => .error .malformed

end

/-- The number of containers that may be nested in each other. -/
def maxDepth : Nat := 127

/-- Reads a document exactly. -/
def readDocument (xs : List Symbol) : Except ReadError (Value × List Symbol) :=
  readValue .exact (4 * xs.length + 4) maxDepth xs

/-- Passes over a document. -/
def skipDocument (xs : List Symbol) : Except ReadError (List Symbol) :=
  (readValue .skipping (4 * xs.length + 4) xs.length xs).map Prod.snd

/-- Accepts the end of the input, blanks aside. -/
def readEnd (xs : List Symbol) : Except ReadError Unit :=
  match skipBlanks xs with
  | [] => .ok ()
  | _ => .error .malformed

/-- Reads a whole document of the shape that `shape` accepts.  The shape is checked before what
follows the document. -/
def decode {α : Type} (shape : Value → Option α) (xs : List Symbol) : Except ReadError α := do
  let (v, rest) ← readDocument xs
  match shape v with
  | none => .error .mismatch
  | some a =>
    readEnd rest
    .ok a

end VirtualNode.Json
