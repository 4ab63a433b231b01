import VirtualNode.Text.Blank

/-!
# States of a module

A base reports the state of a module as a word.  Three words are known, in any case of their
ASCII letters and with blanks around them; every other text is kept as it came.  Main statement:
reading the written form of a state that was read gives the state back.
-/

set_option autoImplicit false

namespace VirtualNode.Biz

/-- The state of a module in its base. -/
inductive State where
  /-- The artifact is there, the module has not been started. -/
  | resolved
  /-- The module is running. -/
  | activated
  /-- The module has been stopped or unloaded. -/
  | deactivated
  /-- A state that is not known, as it was reported. -/
  | other (raw : String)
  deriving DecidableEq, Repr, Inhabited

namespace State

/-- The upper-case form of an ASCII letter; other characters stay. -/
def upper (c : Char) : Char :=
  if 'a' ≤ c ∧ c ≤ 'z' then Char.ofNat (c.toNat - 32) else c

/-- The form of a reported word by which it is recognised. -/
def normal (raw : String) : List Char :=
  (Text.trimBy Text.isBlank raw.toList).map upper

/-- The known words. -/
def resolvedWord : List Char := ['R', 'E', 'S', 'O', 'L', 'V', 'E', 'D']

@[inherit_doc resolvedWord]
def activatedWord : List Char := ['A', 'C', 'T', 'I', 'V', 'A', 'T', 'E', 'D']

@[inherit_doc resolvedWord]
def deactivatedWord : List Char := ['D', 'E', 'A', 'C', 'T', 'I', 'V', 'A', 'T', 'E', 'D']

/-- The state that a known word denotes. -/
def known? (word : List Char) : Option State :=
  if word = resolvedWord then some .resolved
  else if word = activatedWord then some .activated
  else if word = deactivatedWord then some .deactivated
  else none

/-- The state that a reported text denotes. -/
def parse (raw : String) : State :=
  (known? (normal raw)).getD (.other raw)

/-- The text of a state. -/
def text : State → String
  | resolved => String.ofList resolvedWord
  | activated => String.ofList activatedWord
  | deactivated => String.ofList deactivatedWord
  | other raw => raw

/-- The word for the resolved state is in normal form. -/
theorem normal_resolvedWord : normal (String.ofList resolvedWord) = resolvedWord := by
  decide

/-- The word for the activated state is in normal form. -/
theorem normal_activatedWord : normal (String.ofList activatedWord) = activatedWord := by
  decide

/-- The word for the deactivated state is in normal form. -/
theorem normal_deactivatedWord : normal (String.ofList deactivatedWord) = deactivatedWord := by
  decide

/-- A known state reads back from its word. -/
theorem parse_text_of_known {word : List Char} {s : State} (h : known? word = some s) :
    parse s.text = s := by
  unfold known? at h
  split at h
  · cases h
    rw [parse, text, normal_resolvedWord]
    rfl
  · split at h
    · cases h
      rw [parse, text, normal_activatedWord]
      rfl
    · split at h
      · cases h
        rw [parse, text, normal_deactivatedWord]
        rfl
      · cases h

/-- Reading the text of a state that was read gives the state back. -/
theorem parse_text_parse (raw : String) : parse (parse raw).text = parse raw := by
  cases h : known? (normal raw) with
  | some s =>
    have hp : parse raw = s := by simp [parse, h]
    rw [hp, parse_text_of_known h]
  | none =>
    have hp : parse raw = .other raw := by simp [parse, h]
    rw [hp, text, hp]

end State

end VirtualNode.Biz
