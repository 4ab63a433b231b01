import VirtualNode.Proofs.Wire.Literals

/-!
# Documents read back

A document is read back from its written form if its numbers are whole and fit a word and its
containers are not nested too deep (`Value.Fits`).  The reader works with fuel; twice the length of
the written form is enough, since every second step at least takes a symbol.

Main statements: `Value.reads`, and `readDocument_write` for a whole document.
-/

set_option autoImplicit false

namespace VirtualNode.Json

open VirtualNode.Text (Symbol)
open VirtualNode.Text.Symbols (ofString)

/-! ## Documents that are written without loss -/

mutual

/-- The numbers are whole and fit a word, and at most `room` containers are nested in each other. -/
def Value.Fits : Nat → Value → Prop
  | _, .null | _, .bool _ | _, .text _ => True
  | _, .number n => n.Fits
  | 0, .list _ | 0, .object _ => False
  | room + 1, .list items => ItemsFit room items
  | room + 1, .object members => MembersFit room members

def ItemsFit : Nat → List Value → Prop
  | _, [] => True
  | room, v :: rest => v.Fits room ∧ ItemsFit room rest

def MembersFit : Nat → List (String × Value) → Prop
  | _, [] => True
  | room, (_, v) :: rest => v.Fits room ∧ MembersFit room rest

end

/-! ## Separators -/

/-- Texts that each follow a comma. -/
def trailing (texts : List String) : List Symbol :=
  texts.flatMap fun t => some ',' :: ofString t

/-- Texts with commas between them are the first one and what trails it. -/
theorem ofString_commas (s : String) (texts : List String) :
    ofString (commas (s :: texts)) = ofString s ++ trailing texts := by
  induction texts generalizing s with
  | nil => simp [commas, trailing]
  | cons t texts ih =>
    have comma : ofString "," = [some ','] := rfl
    rw [commas, Text.Symbols.ofString_append, Text.Symbols.ofString_append, ih, comma]
    simp [trailing]

/-- What trails an item begins with a comma, or is what comes after. -/
theorem delimited_trailing {texts : List String} {rest : List Symbol} (ends : Delimited rest) :
    Delimited (trailing texts ++ rest) := by
  cases texts with
  | nil => exact ends
  | cons t texts => exact .inl rfl

/-! ## Documents -/

/-- The document is read back from its written form, wherever that stands. -/
def Value.Reads (v : Value) : Prop :=
  ∀ (fuel room : Nat) (rest : List Symbol), v.Fits room →
    2 * (ofString v.write).length ≤ fuel → Delimited rest →
    readValue .exact fuel room (ofString v.write ++ rest) = .ok (v, rest)

/-- A document that begins with a digit is a number. -/
theorem readValue_digit {c : Char} (digit : c.isDigit = true) (fuel room : Nat)
    (xs : List Symbol) : readValue .exact (fuel + 1) room (some c :: xs) =
      (readNumber false (some c :: xs)).map fun (n, r) => (.number n, r) := by
  rw [readValue.eq_2]
  rcases isDigit_cases digit with
    rfl | rfl | rfl | rfl | rfl | rfl | rfl | rfl | rfl | rfl <;> rfl

/-- A document that is a word is read back. -/
theorem reads_word {v : Value} (word : v = .null ∨ v = .bool false ∨ v = .bool true) : v.Reads := by
  intro fuel room rest _ enough _
  rcases word with rfl | rfl | rfl
  all_goals
    obtain ⟨fuel, rfl⟩ : ∃ more, fuel = more + 1 :=
      ⟨fuel - 1, by simp [ofString, Value.write] at enough; omega⟩
    rw [readValue.eq_2]
    simp [ofString, Value.write, skipBlanks, readWord, Except.map]

/-- A number is read back. -/
theorem reads_number (n : Number) : (Value.number n).Reads := by
  intro fuel room rest fits enough ends
  cases n with
  | decimal mantissa exponent => exact fits.elim
  | whole n =>
    rw [Value.write] at enough ⊢
    rcases write_whole fits with ⟨c, cs, digit, written, read⟩ | ⟨cs, written, read⟩
    · rw [written] at enough ⊢
      obtain ⟨fuel, rfl⟩ : ∃ more, fuel = more + 1 := ⟨fuel - 1, by simp at enough; omega⟩
      rw [List.cons_append, readValue_digit digit, ← List.cons_append, read rest ends]
      rfl
    · rw [written] at enough ⊢
      obtain ⟨fuel, rfl⟩ : ∃ more, fuel = more + 1 := ⟨fuel - 1, by simp at enough; omega⟩
      rw [readValue.eq_2]
      simp [skipBlanks, Lexicon.exact, read rest ends, Except.map]

/-- A text is read back. -/
theorem reads_text (s : String) : (Value.text s).Reads := by
  intro fuel room rest _ enough _
  rw [Value.write, ofString_quote] at enough ⊢
  obtain ⟨fuel, rfl⟩ : ∃ more, fuel = more + 1 := ⟨fuel - 1, by simp at enough; omega⟩
  rw [readValue.eq_2]
  have text := readText_quotedRest s rest
  simp [skipBlanks, Lexicon.exact, text, Except.map]

/-! ### Lists -/

/-- A written document begins with a symbol that is no blank and closes no list. -/
theorem write_begins {v : Value} {room : Nat} (fits : v.Fits room) :
    ∃ x xs, ofString v.write = x :: xs ∧ x ≠ some ']' ∧
      ∀ ys, skipBlanks (x :: ys) = x :: ys := by
  cases v with
  | null => exact ⟨_, _, rfl, by decide, fun _ => rfl⟩
  | bool b => cases b <;> exact ⟨_, _, rfl, by decide, fun _ => rfl⟩
  | number n =>
    cases n with
    | decimal mantissa exponent => exact fits.elim
    | whole n =>
      rw [Value.write]
      rcases write_whole fits with ⟨c, cs, digit, written, -⟩ | ⟨cs, written, -⟩
      · refine ⟨_, _, written, ?_⟩
        rcases isDigit_cases digit with
          rfl | rfl | rfl | rfl | rfl | rfl | rfl | rfl | rfl | rfl <;>
            exact ⟨by decide, fun _ => rfl⟩
      · exact ⟨_, _, written, by decide, fun _ => rfl⟩
  | text s =>
    rw [Value.write, ofString_quote]
    exact ⟨_, _, rfl, by decide, fun _ => rfl⟩
  | list items =>
    have bracket : ofString "[" = [some '['] := rfl
    rw [Value.write, Text.Symbols.ofString_append, Text.Symbols.ofString_append, bracket]
    exact ⟨_, _, rfl, by decide, fun _ => rfl⟩
  | object members =>
    have brace : ofString "\x7b" = [some '\x7b'] := rfl
    rw [Value.write, Text.Symbols.ofString_append, Text.Symbols.ofString_append, brace]
    exact ⟨_, _, rfl, by decide, fun _ => rfl⟩

/-- The items that trail the first one are read back. -/
theorem readMoreItems_trailing {items : List Value} (reads : ∀ v ∈ items, v.Reads) {room : Nat}
    (fits : ItemsFit room items) {fuel : Nat}
    (enough : 2 * (trailing (writeItems items)).length + 2 ≤ fuel) (rest : List Symbol) :
    readMoreItems .exact fuel room (trailing (writeItems items) ++ some ']' :: rest) =
      .ok (items, rest) := by
  obtain ⟨fuel, rfl⟩ : ∃ more, fuel = more + 1 := ⟨fuel - 1, by omega⟩
  induction items generalizing fuel with
  | nil =>
    rw [readMoreItems.eq_2]
    rfl
  | cons v vs ih =>
    rw [List.forall_mem_cons] at reads
    have split : trailing (writeItems (v :: vs)) =
        some ',' :: (ofString v.write ++ trailing (writeItems vs)) := by
      simp [writeItems, trailing]
    rw [split, List.length_cons, List.length_append] at enough
    obtain ⟨fuel, rfl⟩ : ∃ more, fuel = more + 1 := ⟨fuel - 1, by omega⟩
    have value := reads.1 (fuel + 1) room (trailing (writeItems vs) ++ some ']' :: rest) fits.1
      (by omega) (delimited_trailing (.inr (.inl rfl)))
    have more := ih reads.2 fits.2 fuel (by omega)
    rw [readMoreItems.eq_2, split, List.cons_append, List.append_assoc]
    simp [skipBlanks, value, more, bind, Except.bind]

/-- A list with items is a bracket, the first item, what trails it, and a bracket. -/
theorem write_list_cons (v : Value) (vs : List Value) : ofString (Value.list (v :: vs)).write =
    some '[' :: (ofString v.write ++ trailing (writeItems vs) ++ [some ']']) := by
  have opened : ofString "[" = [some '['] := rfl
  have closed : ofString "]" = [some ']'] := rfl
  simp [Value.write, writeItems, ofString_commas, opened, closed]

/-- A list is read back if its items are. -/
theorem reads_list {items : List Value} (reads : ∀ v ∈ items, v.Reads) :
    (Value.list items).Reads := by
  intro fuel room rest fits enough ends
  cases room with
  | zero => exact fits.elim
  | succ room =>
    cases items with
    | nil =>
      have written : ofString (Value.list []).write = [some '[', some ']'] := rfl
      rw [written] at enough ⊢
      obtain ⟨fuel, rfl⟩ : ∃ more, fuel = more + 2 := ⟨fuel - 2, by simp at enough; omega⟩
      rw [readValue.eq_2]
      simp [skipBlanks, readItems.eq_2, Except.map]
    | cons v vs =>
      rw [List.forall_mem_cons] at reads
      rw [write_list_cons, List.length_cons, List.length_append, List.length_append,
        List.length_singleton] at enough
      obtain ⟨fuel, rfl⟩ : ∃ more, fuel = more + 2 := ⟨fuel - 2, by omega⟩
      obtain ⟨x, xs, begins, open_list, ink⟩ := write_begins fits.1
      have value := reads.1 fuel room (trailing (writeItems vs) ++ some ']' :: rest) fits.1
        (by omega) (delimited_trailing (.inr (.inl rfl)))
      have enough' : 2 * (trailing (writeItems vs)).length + 2 ≤ fuel := by omega
      have more := readMoreItems_trailing reads.2 fits.2 enough' rest
      rw [readValue.eq_2, write_list_cons]
      rw [begins] at value ⊢
      rw [List.cons_append] at value
      simp [skipBlanks, readItems.eq_2, ink, open_list, value, more, bind, Except.bind, Except.map]

/-! ### Objects -/

/-- The exact lexicon reads texts as they are written. -/
theorem exact_text : Lexicon.exact.text = readText := rfl

/-- What stands after the opening quote of a member and of those that follow it. -/
def memberRest (k : String) (v : Value) (members : List (String × Value)) : List Symbol :=
  quotedRest k ++ some ':' :: (ofString v.write ++ trailing (writeMembers members))

/-- What trails a member is a comma and the next member. -/
theorem trailing_writeMembers_cons (k : String) (v : Value) (members : List (String × Value)) :
    trailing (writeMembers ((k, v) :: members)) =
      some ',' :: some '"' :: memberRest k v members := by
  have colon : ofString ":" = [some ':'] := rfl
  simp [trailing, writeMembers, memberRest, ofString_quote, colon]

/-- An object with members is a brace, the first member and its rest, and a brace. -/
theorem write_object_cons (k : String) (v : Value) (members : List (String × Value)) :
    ofString (Value.object ((k, v) :: members)).write =
      some '\x7b' :: some '"' :: (memberRest k v members ++ [some '\x7d']) := by
  have opened : ofString "\x7b" = [some '\x7b'] := rfl
  have closed : ofString "\x7d" = [some '\x7d'] := rfl
  have colon : ofString ":" = [some ':'] := rfl
  simp [Value.write, writeMembers, memberRest, ofString_commas, ofString_quote, opened, closed,
    colon]

/-- The members of an object are read back if their values are. -/
theorem readMember_memberRest {k : String} {v : Value} {members : List (String × Value)}
    (reads : ∀ m ∈ (k, v) :: members, m.2.Reads) {room : Nat}
    (fits : MembersFit room ((k, v) :: members)) {fuel : Nat}
    (enough : 2 * (memberRest k v members).length + 2 ≤ fuel) (rest : List Symbol) :
    readMember .exact fuel room (memberRest k v members ++ some '\x7d' :: rest) =
      .ok ((k, v) :: members, rest) := by
  obtain ⟨fuel, rfl⟩ : ∃ more, fuel = more + 1 := ⟨fuel - 1, by omega⟩
  induction members generalizing k v fuel with
  | nil =>
    have mine : v.Reads := reads (k, v) List.mem_cons_self
    have length : (memberRest k v []).length =
        (quotedRest k).length + 1 + (ofString v.write).length := by
      simp [memberRest, trailing, writeMembers]
      omega
    have name := readText_quotedRest k (some ':' :: (ofString v.write ++ some '\x7d' :: rest))
    have value := mine fuel room (some '\x7d' :: rest) fits.1 (by omega) (.inr (.inr rfl))
    have split : memberRest k v [] ++ some '\x7d' :: rest =
        quotedRest k ++ some ':' :: (ofString v.write ++ some '\x7d' :: rest) := by
      simp [memberRest, trailing, writeMembers]
    rw [readMember.eq_2, split]
    simp [exact_text, name, readColon, skipBlanks, value, bind, Except.bind]
  | cons m ms ih =>
    obtain ⟨k', v'⟩ := m
    have mine : v.Reads := reads (k, v) List.mem_cons_self
    have length : (memberRest k v ((k', v') :: ms)).length =
        (quotedRest k).length + 3 + (ofString v.write).length + (memberRest k' v' ms).length := by
      rw [memberRest, trailing_writeMembers_cons]
      simp
      omega
    obtain ⟨fuel, rfl⟩ : ∃ more, fuel = more + 1 := ⟨fuel - 1, by omega⟩
    have name := readText_quotedRest k (some ':' :: (ofString v.write ++ some ',' :: some '"' ::
      (memberRest k' v' ms ++ some '\x7d' :: rest)))
    have value := mine (fuel + 1) room (some ',' :: some '"' ::
      (memberRest k' v' ms ++ some '\x7d' :: rest)) fits.1 (by omega) (.inl rfl)
    have more := ih (fun m mem => reads m (List.mem_cons_of_mem _ mem)) fits.2 fuel (by omega)
    have split : memberRest k v ((k', v') :: ms) ++ some '\x7d' :: rest =
        quotedRest k ++ some ':' :: (ofString v.write ++ some ',' :: some '"' ::
          (memberRest k' v' ms ++ some '\x7d' :: rest)) := by
      rw [memberRest, trailing_writeMembers_cons]
      simp
    rw [readMember.eq_2, split]
    simp [exact_text, name, readColon, skipBlanks, value, more, bind, Except.bind]

/-- An object is read back if the values of its members are. -/
theorem reads_object {members : List (String × Value)} (reads : ∀ m ∈ members, m.2.Reads) :
    (Value.object members).Reads := by
  intro fuel room rest fits enough ends
  cases room with
  | zero => exact fits.elim
  | succ room =>
    cases members with
    | nil =>
      have written : ofString (Value.object []).write = [some '\x7b', some '\x7d'] := rfl
      rw [written] at enough ⊢
      obtain ⟨fuel, rfl⟩ : ∃ more, fuel = more + 2 := ⟨fuel - 2, by simp at enough; omega⟩
      rw [readValue.eq_2]
      simp [skipBlanks, readMembers.eq_2, Except.map]
    | cons m ms =>
      obtain ⟨k, v⟩ := m
      rw [write_object_cons] at enough ⊢
      simp only [List.length_cons, List.length_append, List.length_nil] at enough
      obtain ⟨fuel, rfl⟩ : ∃ more, fuel = more + 2 := ⟨fuel - 2, by omega⟩
      have enough' : 2 * (memberRest k v ms).length + 2 ≤ fuel := by omega
      have all := readMember_memberRest reads fits enough' rest
      rw [readValue.eq_2]
      simp [skipBlanks, readMembers.eq_2, all, Except.map]

/-! ### Whole documents -/

/-- Every document is read back from its written form. -/
theorem Value.reads (v : Value) : v.Reads := by
  cases v with
  | null => exact reads_word (.inl rfl)
  | bool b =>
    cases b with
    | false => exact reads_word (.inr (.inl rfl))
    | true => exact reads_word (.inr (.inr rfl))
  | number n => exact reads_number n
  | text s => exact reads_text s
  | list items => exact reads_list fun v mem => v.reads
  | object members => exact reads_object fun m mem => m.2.reads
termination_by sizeOf v
decreasing_by
  · have smaller := List.sizeOf_lt_of_mem mem
    simp only [Value.list.sizeOf_spec]
    omega
  · have smaller := List.sizeOf_lt_of_mem mem
    obtain ⟨k, v⟩ := m
    simp only [Prod.mk.sizeOf_spec, Value.object.sizeOf_spec] at smaller ⊢
    omega

/-- A document that is not too deep is read back. -/
theorem readDocument_write {v : Value} (fits : v.Fits maxDepth) (rest : List Symbol)
    (ends : Delimited rest) :
    readDocument (ofString v.write ++ rest) = .ok (v, rest) := by
  refine v.reads _ _ rest fits ?_ ends
  rw [List.length_append]
  omega

end VirtualNode.Json
