import Mathlib.Tactic.IntervalCases
import VirtualNode.Json.Reader
import VirtualNode.Json.Writer

/-!
# Literals read back

The written form of a string is read back as the string, whatever characters it has, and the written
form of a whole number that fits a word is read back as the number.  A number has no mark at its
end; it ends where something follows that is no part of a number (`Delimited`).

Main statements: `readText_quote` and `readNumber_digits`.
-/

set_option autoImplicit false

namespace VirtualNode.Text.Symbols

/-- The symbols of two texts are those of the one and then of the other. -/
@[simp]
theorem ofString_append (s t : String) : ofString (s ++ t) = ofString s ++ ofString t := by
  simp [ofString]

/-- The symbols of a text are its characters. -/
@[simp]
theorem ofString_ofList (cs : List Char) : ofString (String.ofList cs) = cs.map some := by
  simp [ofString]

/-- Characters spell their text. -/
theorem text?_ofString (s : String) : text? (ofString s) = some s := by
  have spelled : ∀ cs : List Char, (cs.map some).mapM id = some cs := by
    intro cs
    induction cs with
    | nil => rfl
    | cons c cs ih => simp [ih]
  simp [text?, ofString, spelled]

end VirtualNode.Text.Symbols

namespace VirtualNode.Json

open VirtualNode.Text (Symbol)
open VirtualNode.Text.Symbols (ofString ofString_append)

/-! ## Strings -/

/-- A hexadecimal digit is read back. -/
theorem hexValue?_hexDigit : ∀ n < 16, hexValue? (some (hexDigit n)) = some n := by
  decide

/-- The escape of a control character is its code in four digits. -/
theorem readHex_control {n : Nat} (low : n < 0x20) (rest : List Symbol) :
    readHex (some '0' :: some '0' :: some (hexDigit (n / 16)) :: some (hexDigit (n % 16)) :: rest) =
      .ok (n, rest) := by
  have zero : hexValue? (some '0') = some 0 := by decide
  have high := hexValue?_hexDigit (n / 16) (by omega)
  have last := hexValue?_hexDigit (n % 16) (by omega)
  simp only [readHex, zero, high, last, Except.ok.injEq, Prod.mk.injEq, and_true]
  omega

section Strings

variable {exact : Bool} {xs rest : List Symbol} {ss : List Symbol}

/-- A character that needs no escape stands for itself. -/
theorem readLiteral_plain {c : Char} (quote : c ≠ '"') (slash : c ≠ '\\') (ink : ¬ c.toNat < 0x20)
    (later : readLiteral exact xs = .ok (ss, rest)) :
    readLiteral exact (some c :: xs) = .ok (some c :: ss, rest) := by
  rw [readLiteral.eq_4 exact (some c) xs (by simpa using quote) (by simpa using slash)]
  simp [ink, later]

/-- An escape is read, and then the rest of the literal. -/
theorem readLiteral_escaped {s : Symbol} {ys : List Symbol}
    (escape : readEscape exact xs = .ok (s, ys)) (later : readLiteral exact ys = .ok (ss, rest)) :
    readLiteral exact (some '\\' :: xs) = .ok (s :: ss, rest) := by
  rw [readLiteral.eq_3]
  split
  · rename_i e failed
    rw [escape] at failed
    cases failed
  · rename_i s' ys' read
    rw [escape] at read
    cases read
    simp [later]

/-- The escape of a control character. -/
theorem readEscape_control {c : Char} (low : c.toNat < 0x20) :
    readEscape true (some 'u' :: some '0' :: some '0' :: some (hexDigit (c.toNat / 16)) ::
      some (hexDigit (c.toNat % 16)) :: xs) = .ok (some c, xs) := by
  have unpaired : isLeading c.toNat = false ∧ isTrailing c.toNat = false := by
    simp only [isLeading, isTrailing, Bool.and_eq_false_iff, decide_eq_false_iff_not]
    omega
  simp [readEscape, readHex_control low, unpaired]

/-- The written form of a character is read back. -/
theorem readLiteral_escapeChar (c : Char) (later : readLiteral true xs = .ok (ss, rest)) :
    readLiteral true ((escapeChar c).map some ++ xs) = .ok (some c :: ss, rest) := by
  unfold escapeChar
  split
  case h_8 quote slash _ _ _ _ _ =>
    split
    · rename_i low
      exact readLiteral_escaped (readEscape_control low) later
    · rename_i ink
      exact readLiteral_plain quote slash ink later
  all_goals exact readLiteral_escaped rfl later

/-- The written form of characters is read back up to the closing quote. -/
theorem readLiteral_flatMap (cs : List Char) (rest : List Symbol) :
    readLiteral true ((cs.flatMap escapeChar).map some ++ some '"' :: rest) =
      .ok (cs.map some, rest) := by
  induction cs with
  | nil => exact readLiteral.eq_2 true rest
  | cons c cs ih =>
    rw [List.flatMap_cons, List.map_append, List.append_assoc]
    exact readLiteral_escapeChar c ih

/-- What stands after the opening quote of the written form of a text. -/
def quotedRest (s : String) : List Symbol :=
  (s.toList.flatMap escapeChar).map some ++ [some '"']

/-- A quoted text is a quotation mark and what is read after it. -/
theorem ofString_quote (s : String) : ofString (quote s) = some '"' :: quotedRest s := by
  rw [quote, Text.Symbols.ofString_ofList]
  simp [quoteChars, quotedRest]

/-- The written form of a text is read back as the text. -/
theorem readText_quotedRest (s : String) (rest : List Symbol) :
    readText (quotedRest s ++ rest) = .ok (s, rest) := by
  have literal : readLiteral true (quotedRest s ++ rest) = .ok (ofString s, rest) := by
    simpa [quotedRest, ofString] using readLiteral_flatMap s.toList rest
  simp [readText, literal, Text.Symbols.text?_ofString, bind, Except.bind]

end Strings

/-! ## Whole numbers -/

/-- What follows a document in a longer text: nothing, or a mark that is no part of a number. -/
def Delimited : List Symbol → Prop
  | [] => True
  | x :: _ => x = some ',' ∨ x = some ']' ∨ x = some '\x7d'

/-- There are ten digits. -/
theorem isDigit_cases {c : Char} (h : c.isDigit = true) :
    c = '0' ∨ c = '1' ∨ c = '2' ∨ c = '3' ∨ c = '4' ∨ c = '5' ∨ c = '6' ∨ c = '7' ∨ c = '8' ∨
      c = '9' := by
  have range : 48 ≤ c.toNat ∧ c.toNat ≤ 57 := by
    simpa [Char.isDigit, UInt32.le_iff_toNat_le] using h
  obtain ⟨low, high⟩ := range
  rw [← Char.ofNat_toNat c]
  interval_cases c.toNat <;> decide

/-- A digit has its value. -/
theorem digit?_of_isDigit {c : Char} (h : c.isDigit = true) :
    digit? (some c) = some (c.toNat - '0'.toNat) := by
  have range : '0' ≤ c ∧ c ≤ '9' := by
    simpa [Char.isDigit, Char.le_def] using h
  simp [digit?, range]

/-- Where digits cannot go on there are none. -/
theorem spanDigits_delimited {rest : List Symbol} (ends : Delimited rest) :
    spanDigits rest = ([], rest) := by
  cases rest with
  | nil => rfl
  | cons x rest => rcases ends with rfl | rfl | rfl <;> rfl

/-- Digits are read up to where they cannot go on. -/
theorem spanDigits_append {cs : List Char} (digits : ∀ c ∈ cs, c.isDigit = true)
    {rest : List Symbol} (ends : Delimited rest) :
    spanDigits (cs.map some ++ rest) = (cs.map fun c => c.toNat - '0'.toNat, rest) := by
  induction cs with
  | nil => exact spanDigits_delimited ends
  | cons c cs ih =>
    rw [List.forall_mem_cons] at digits
    simp only [List.map_cons, List.cons_append, spanDigits, digit?_of_isDigit digits.1,
      ih digits.2]

/-- The digits of a number, the highest one first. -/
def digitsOf (n : Nat) : List Nat :=
  (Nat.toDigits 10 n).map fun c => c.toNat - '0'.toNat

/-- A number is read back from its digits. -/
theorem ofDigits_digitsOf (n : Nat) : ofDigits (digitsOf n) = n := by
  have spelled : Nat.ofDigitChars 10 (Nat.toDigits 10 n) 0 = n := Nat.ofDigitChars_ten_toDigits
  rw [Nat.ofDigitChars_eq_foldl] at spelled
  simpa [ofDigits, digitsOf, List.foldl_map, Nat.mul_comm] using spelled

/-- The character of a digit has its value. -/
theorem toNat_digitChar : ∀ d < 10, (Nat.digitChar d).toNat - 48 = d := by
  decide

/-- A small number has one digit. -/
theorem digitsOf_of_lt {n : Nat} (small : n < 10) : digitsOf n = [n] := by
  simpa [digitsOf, Nat.toDigits_of_lt_base small] using toNat_digitChar n small

/-- A large number has the digits of its tenth and one more. -/
theorem digitsOf_of_le {n : Nat} (large : 10 ≤ n) :
    digitsOf n = digitsOf (n / 10) ++ [n % 10] := by
  simpa [digitsOf, Nat.toDigits_of_base_le (by omega) large] using
    toNat_digitChar (n % 10) (Nat.mod_lt n (by omega))

/-- Every number has a digit. -/
theorem digitsOf_ne_nil (n : Nat) : digitsOf n ≠ [] := by
  simp [digitsOf, Nat.toDigits_ne_nil]

/-- A number does not begin with a zero, unless it is zero. -/
theorem head?_digitsOf {n : Nat} (positive : 0 < n) : (digitsOf n).head? ≠ some 0 := by
  induction n using Nat.strongRecOn with
  | ind n ih =>
    by_cases small : n < 10
    · simp [digitsOf_of_lt small]
      omega
    · obtain ⟨first, later, front⟩ := List.exists_cons_of_ne_nil (digitsOf_ne_nil (n / 10))
      have first_ne := ih (n / 10) (by omega) (by omega)
      rw [digitsOf_of_le (Nat.le_of_not_lt small), front]
      rwa [front] at first_ne

/-- The digits of a number are read back. -/
theorem spanDigits_toDigits (n : Nat) {rest : List Symbol} (ends : Delimited rest) :
    spanDigits ((Nat.toDigits 10 n).map some ++ rest) = (digitsOf n, rest) :=
  spanDigits_append (fun _ mem => Nat.isDigit_of_mem_toDigits (by omega) (by omega) mem) ends

/-- Where a number cannot go on it has no fraction. -/
theorem readFraction_delimited {rest : List Symbol} (ends : Delimited rest) :
    readFraction rest = .ok (none, rest) := by
  cases rest with
  | nil => rfl
  | cons x rest => rcases ends with rfl | rfl | rfl <;> rfl

/-- Where a number cannot go on it has no exponent. -/
theorem readExponent_delimited {rest : List Symbol} (ends : Delimited rest) :
    readExponent rest = .ok (none, rest) := by
  cases rest with
  | nil => rfl
  | cons x rest => rcases ends with rfl | rfl | rfl <;> rfl

/-- The digits of a number that fits a word are read back after its sign. -/
theorem readNumber_toDigits (negative : Bool) (n : Nat) {rest : List Symbol} (ends : Delimited rest)
    (fits : if negative then 0 < n ∧ n ≤ Nat.pow 2 63 else n < Nat.pow 2 64) :
    readNumber negative ((Nat.toDigits 10 n).map some ++ rest) =
      .ok (.whole (if negative then -n else n), rest) := by
  have digits : readDigits ((Nat.toDigits 10 n).map some ++ rest) = .ok (digitsOf n, rest) := by
    obtain ⟨first, later, front⟩ := List.exists_cons_of_ne_nil (digitsOf_ne_nil n)
    rw [readDigits, spanDigits_toDigits n ends, front]
  have leading : ¬ ((digitsOf n).head? = some 0 ∧ (digitsOf n).length ≠ 1) := by
    rintro ⟨zero, several⟩
    rcases Nat.eq_zero_or_pos n with rfl | positive
    · simp [digitsOf_of_lt] at several
    · exact head?_digitsOf positive zero
  have value : numberOf negative (digitsOf n) [] 0 true =
      .ok (.whole (if negative then -n else n)) := by
    rw [numberOf, ofDigits_digitsOf]
    cases negative <;> simp_all
  simp [readNumber, digits, leading, readFraction_delimited ends, readExponent_delimited ends,
    value, bind, Except.bind]

/-- A whole number that fits a word, signed or unsigned. -/
def Number.Fits : Number → Prop
  | .whole n => -(Nat.pow 2 63 : Int) ≤ n ∧ n < Nat.pow 2 64
  | .decimal _ _ => False

/-- A whole number is written as its digits, after a minus sign if it is negative, and they are read
back. -/
theorem write_whole {n : Int} (fits : (Number.whole n).Fits) :
    (∃ c cs, c.isDigit = true ∧ ofString (Number.whole n).write = some c :: cs ∧
      ∀ rest, Delimited rest → readNumber false (some c :: cs ++ rest) = .ok (.whole n, rest)) ∨
    ∃ cs, ofString (Number.whole n).write = some '-' :: cs ∧
      ∀ rest, Delimited rest → readNumber true (cs ++ rest) = .ok (.whole n, rest) := by
  obtain ⟨low, high⟩ := fits
  simp only [Nat.pow_eq, Nat.reducePow, Nat.cast_ofNat] at low high
  rw [Number.write, Int.toString_eq_repr, Int.repr_eq_if]
  by_cases nonneg : 0 ≤ n
  · obtain ⟨m, rfl⟩ := Int.eq_ofNat_of_zero_le nonneg
    obtain ⟨c, cs, digits⟩ := List.exists_cons_of_ne_nil (Nat.toDigits_ne_nil (n := m) (b := 10))
    refine .inl ⟨c, cs.map some, ?_, ?_, fun rest ends => ?_⟩
    · exact Nat.isDigit_of_mem_toDigits (by omega) (by omega) (digits ▸ List.mem_cons_self)
    · rw [if_pos nonneg, Int.toNat_natCast, Nat.repr_eq_ofList_toDigits,
        Text.Symbols.ofString_ofList, digits]
      rfl
    · have read := readNumber_toDigits false m ends (by simp; omega)
      simpa [digits] using read
  · obtain ⟨m, rfl⟩ := Int.eq_negSucc_of_lt_zero (by omega : n < 0)
    refine .inr ⟨(Nat.toDigits 10 (m + 1)).map some, ?_, fun rest ends => ?_⟩
    · have minus : ofString "-" = [some '-'] := rfl
      simp [Nat.repr_eq_ofList_toDigits, minus]
    · have read := readNumber_toDigits true (m + 1) ends (by simp; omega)
      rw [if_pos rfl] at read
      exact read

end VirtualNode.Json
