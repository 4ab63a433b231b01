import VirtualNode.Json.Row
import VirtualNode.Proofs.Wire.Documents

/-!
# Records read back

A record is written as an object with all its fields under their own names.  Whether a row is taken
from the document that was read or straight from the input, it has the values that were written, if
no field answers to the name of another one that comes after it (`Separate`).

Main statements: `Row.ofValue?_written` and `Row.decode_written`.
-/

set_option autoImplicit false

namespace VirtualNode.Json

open VirtualNode.Text (Symbol)
open VirtualNode.Text.Symbols (ofString)

namespace Scalar

/-- The document of a scalar. -/
def value : Scalar → Value
  | .text s => .text s
  | .whole n => .number (.whole n)

/-- Whether a scalar is of the kind of a field and fits it. -/
def Suits (f : Field) (s : Scalar) : Prop := f.kind.ofValue? s.value = some s

end Scalar

namespace Row

/-- The members under which the scalars of a record are written. -/
def written (fields : List Field) (scalars : List Scalar) : Members :=
  List.zipWith (fun f s => (f.name, s.value)) fields scalars

/-- No field answers to the name of one that comes after it. -/
def Separate (fields : List Field) : Prop :=
  fields.Pairwise fun e f => e.answersTo f.name = false

instance (fields : List Field) : Decidable (Separate fields) :=
  inferInstanceAs (Decidable (List.Pairwise _ _))

/-- The row in which the fields before `late` have values. -/
def partly (done : List Scalar) (late : List Field) : Row := done.map some ++ start late

section Split

variable {early late : List Field} {f : Field} {done ss : List Scalar} {s : Scalar}

/-- The name of a field belongs to the field. -/
theorem position?_name (separate : Separate (early ++ f :: late)) :
    position? (early ++ f :: late) f.name = some early.length := by
  rw [Separate, List.pairwise_append] at separate
  have before : early.findIdx? (·.answersTo f.name) = none := by
    rw [List.findIdx?_eq_none_iff]
    exact fun e mem => separate.2.2 e mem f List.mem_cons_self
  have mine : f.answersTo f.name = true := by simp [Field.answersTo]
  rw [position?, List.findIdx?_append, before, Option.none_or, List.findIdx?_cons, mine]
  simp

/-- The kind at a position is that of the field there. -/
theorem kindAt_split : kindAt (early ++ f :: late) early.length = f.kind := by
  simp [kindAt]

/-- The next field is not given yet. -/
theorem given_partly (length : done.length = early.length) :
    given (partly done (f :: late)) early.length = false := by
  simp [given, partly, start, ← length]

/-- When the next field is given, one more is done. -/
theorem set_partly (length : done.length = early.length) :
    (partly done (f :: late)).set early.length (some s) = partly (done ++ [s]) late := by
  simp [partly, start, ← length]

/-- The members of a record enter the row one after the other. -/
theorem enter_written {fields : List Field} (separate : Separate fields)
    (suits : List.Forall₂ (fun f s => Scalar.Suits f s) late ss) (split : fields = early ++ late)
    (length : done.length = early.length) :
    enter fields (written late ss) (partly done late) = some ((done ++ ss).map some) := by
  induction suits generalizing early done with
  | nil => simp [written, enter, partly, start]
  | @cons f s late ss suit _ ih =>
    subst split
    have split : early ++ f :: late = (early ++ [f]) ++ late := by simp
    have length' : (done ++ [s]).length = (early ++ [f]).length := by simp [length]
    have next := ih split length'
    have entry : written (f :: late) (s :: ss) = (f.name, s.value) :: written late ss := rfl
    have value : (kindAt (early ++ f :: late) early.length).ofValue? s.value = some s := by
      rw [kindAt_split]
      exact suit
    rw [entry, enter, position?_name separate]
    simp only [given_partly length, Bool.false_eq_true, if_false, value, set_partly length, next]
    simp

end Split

/-- A row with all its cells is complete. -/
theorem complete_all (fields : List Field) (ss : List Scalar) :
    complete fields (ss.map some) = true := by
  rw [complete, List.all_eq_true]
  rintro ⟨f, v⟩ mem
  obtain ⟨s, -, rfl⟩ := List.mem_map.1 (List.of_mem_zip mem).2
  simp

section Whole

variable {fields : List Field} {ss : List Scalar}

/-- The members of a record, as it is written, fill its row. -/
theorem enter_start (separate : Separate fields)
    (suits : List.Forall₂ (fun f s => Scalar.Suits f s) fields ss) :
    enter fields (written fields ss) (start fields) = some (ss.map some) := by
  have whole : fields = [] ++ fields := rfl
  have nothing_done : ([] : List Scalar).length = ([] : List Field).length := rfl
  exact enter_written separate suits whole nothing_done

/-- The row of a document that holds a record has its values. -/
theorem ofValue?_written (separate : Separate fields)
    (suits : List.Forall₂ (fun f s => Scalar.Suits f s) fields ss) :
    ofValue? fields (.object (written fields ss)) = some (ss.map some) := by
  simp [ofValue?, enter_start separate suits, complete_all]

end Whole

/-! ## Straight from the input -/

/-- A number that begins with a digit is read as a scalar. -/
theorem readScalar_digit {c : Char} (digit : c.isDigit = true) {n : Int} (signed : fitsSigned n)
    {xs rest : List Symbol} (read : readNumber false (some c :: xs) = .ok (.whole n, rest)) :
    readScalar .whole (some c :: xs) = .ok (.whole n, rest) := by
  rcases isDigit_cases digit with
    rfl | rfl | rfl | rfl | rfl | rfl | rfl | rfl | rfl | rfl
  all_goals simp [readScalar, skipBlanks, digit?, read, signed]

/-- A scalar is read from the written form of its document. -/
theorem readScalar_write {kind : ScalarKind} {v : Value} {s : Scalar}
    (value : kind.ofValue? v = some s) (rest : List Symbol) (ends : Delimited rest) :
    readScalar kind (ofString v.write ++ rest) = .ok (s, rest) := by
  cases kind with
  | text =>
    cases v with
    | text t =>
      obtain rfl : Scalar.text t = s := by simpa [ScalarKind.ofValue?] using value
      rw [Value.write, ofString_quote]
      simp [readScalar, skipBlanks, readText_quotedRest, Except.map]
    | _ => simp [ScalarKind.ofValue?] at value
  | whole =>
    cases v with
    | number n =>
      cases n with
      | decimal mantissa exponent => simp [ScalarKind.ofValue?] at value
      | whole n =>
        obtain ⟨signed, rfl⟩ : fitsSigned n = true ∧ Scalar.whole n = s := by
          simpa [ScalarKind.ofValue?] using value
        have fits : (Number.whole n).Fits := by
          simp only [fitsSigned, Bool.and_eq_true, decide_eq_true_eq] at signed
          refine ⟨signed.1, signed.2.trans ?_⟩
          decide
        rw [Value.write]
        rcases write_whole fits with ⟨c, cs, digit, form, read⟩ | ⟨cs, form, read⟩
        · rw [form]
          exact readScalar_digit digit signed (read rest ends)
        · rw [form]
          simp [readScalar, skipBlanks, read rest ends, signed]
    | _ => simp [ScalarKind.ofValue?] at value

/-- A member that enters a row sets a field that had no value. -/
theorem enter_cons {fields : List Field} {k : String} {v : Value} {members : Members}
    {row row' : Row} (entered : enter fields ((k, v) :: members) row = some row')
    (known : (position? fields k).isSome = true) :
    ∃ i s, position? fields k = some i ∧ given row i = false ∧
      (kindAt fields i).ofValue? v = some s ∧
      enter fields members (row.set i (some s)) = some row' := by
  obtain ⟨i, name⟩ := Option.isSome_iff_exists.1 known
  rw [enter, name] at entered
  dsimp only at entered
  split at entered
  · cases entered
  · rename_i free
    split at entered
    · cases entered
    · rename_i s value
      exact ⟨i, s, name, by simpa using free, value, entered⟩

section Entries

variable {fields : List Field} {k : String} {v : Value} {s : Scalar} {i : Nat} {row : Row}

/-- The last entry is read into its cell. -/
theorem readEntries_last (name : position? fields k = some i) (free : given row i = false)
    (value : (kindAt fields i).ofValue? v = some s) (fuel : Nat) (rest : List Symbol) :
    readEntries fields (fuel + 1) row (memberRest k v [] ++ some '\x7d' :: rest) =
      .ok (row.set i (some s), rest) := by
  have named := readText_quotedRest k (some ':' :: (ofString v.write ++ some '\x7d' :: rest))
  have scalar := readScalar_write value (some '\x7d' :: rest) (.inr (.inr rfl))
  have split : memberRest k v [] ++ some '\x7d' :: rest =
      quotedRest k ++ some ':' :: (ofString v.write ++ some '\x7d' :: rest) := by
    simp [memberRest, trailing, writeMembers]
  rw [split, readEntries]
  simp [named, name, free, readColon, skipBlanks, scalar, bind, Except.bind]

/-- An entry is read into its cell, and the others follow. -/
theorem readEntries_next (name : position? fields k = some i) (free : given row i = false)
    (value : (kindAt fields i).ofValue? v = some s) (fuel : Nat) (k' : String) (v' : Value)
    (members : Members) (rest : List Symbol) :
    readEntries fields (fuel + 1) row (memberRest k v ((k', v') :: members) ++ rest) =
      readEntries fields fuel (row.set i (some s)) (memberRest k' v' members ++ rest) := by
  have named := readText_quotedRest k (some ':' :: (ofString v.write ++ some ',' :: some '"' ::
    (memberRest k' v' members ++ rest)))
  have scalar := readScalar_write value
    (some ',' :: some '"' :: (memberRest k' v' members ++ rest)) (.inl rfl)
  have split : memberRest k v ((k', v') :: members) ++ rest =
      quotedRest k ++ some ':' :: (ofString v.write ++ some ',' :: some '"' ::
        (memberRest k' v' members ++ rest)) := by
    rw [memberRest, trailing_writeMembers_cons]
    simp
  rw [split, readEntries]
  simp [named, name, free, readColon, skipBlanks, scalar, bind, Except.bind]

/-- Members that enter a row are read from their written form. -/
theorem readEntries_memberRest {members : Members} {row' : Row}
    (entered : enter fields ((k, v) :: members) row = some row')
    (known : ∀ m ∈ (k, v) :: members, (position? fields m.1).isSome = true) {fuel : Nat}
    (enough : members.length < fuel) (rest : List Symbol) :
    readEntries fields fuel row (memberRest k v members ++ some '\x7d' :: rest) =
      .ok (row', rest) := by
  induction members generalizing k v row fuel with
  | nil =>
    obtain ⟨fuel, rfl⟩ : ∃ more, fuel = more + 1 := ⟨fuel - 1, by omega⟩
    obtain ⟨i, s, name, free, value, last⟩ := enter_cons entered (known _ List.mem_cons_self)
    obtain rfl : row.set i (some s) = row' := by simpa [enter] using last
    exact readEntries_last name free value fuel rest
  | cons m ms ih =>
    rw [List.length_cons] at enough
    obtain ⟨fuel, rfl⟩ : ∃ more, fuel = more + 1 := ⟨fuel - 1, by omega⟩
    obtain ⟨i, s, name, free, value, later⟩ := enter_cons entered (known _ List.mem_cons_self)
    rw [readEntries_next name free value]
    exact ih later (fun m' mem => known m' (List.mem_cons_of_mem _ mem)) (by omega)

end Entries

section Whole

variable {fields : List Field} {ss : List Scalar}

/-- The name of every written member is known. -/
theorem position?_written {m : String × Value} (mem : m ∈ written fields ss) :
    (position? fields m.1).isSome = true := by
  obtain ⟨i, inside, rfl⟩ := List.mem_iff_getElem.1 mem
  rw [written, List.length_zipWith] at inside
  have known : i < fields.length := by omega
  simp only [written, List.getElem_zipWith, position?, List.findIdx?_isSome, List.any_eq_true]
  exact ⟨fields[i], List.getElem_mem known, by simp [Field.answersTo]⟩

/-- The written form of a record has more symbols than members. -/
theorem length_lt_memberRest (k : String) (v : Value) (members : Members) :
    members.length < (memberRest k v members).length := by
  induction members generalizing k v with
  | nil => simp [memberRest]
  | cons m ms ih =>
    have shorter := ih m.1 m.2
    rw [memberRest, trailing_writeMembers_cons]
    simp only [List.length_append, List.length_cons]
    omega

/-- A record is read from its written form. -/
theorem decode_written (separate : Separate fields)
    (suits : List.Forall₂ (fun f s => Scalar.Suits f s) fields ss) (some_field : fields ≠ []) :
    decode fields (ofString (Value.object (written fields ss)).write) = .ok (ss.map some) := by
  have entered := enter_start separate suits
  have known : ∀ m ∈ written fields ss, (position? fields m.1).isSome = true :=
    fun _ => position?_written
  obtain ⟨k, v, members, form⟩ : ∃ k v members, written fields ss = (k, v) :: members := by
    cases suits with
    | nil => exact (some_field rfl).elim
    | cons suit more => exact ⟨_, _, _, rfl⟩
  rw [form] at entered known ⊢
  have enough : members.length < (memberRest k v members).length + 1 + 1 := by
    have shorter := length_lt_memberRest k v members
    omega
  have read := readEntries_memberRest entered known enough []
  rw [write_object_cons, decode]
  simp [skipBlanks, readObject, read, complete_all, readEnd, bind, Except.bind]

end Whole

end Row

end VirtualNode.Json
