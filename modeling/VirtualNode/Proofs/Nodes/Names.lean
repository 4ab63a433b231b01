import Mathlib.Data.List.Basic
import Mathlib.Data.List.Chain
import VirtualNode.Controller.Settings

/-!
# Names of nodes

The cluster takes a text for the name of a node if it is a subdomain: short enough, and made of
labels with dots between them.  The name that is made from the id of a node has the right
characters and the right ends, whatever the id.  But the dots inside the id stay where they are,
and however long the id is the name is longer.

What counts is the heart of the id, from its first letter or digit to its last: the name is a
subdomain exactly if the heart is short enough and every dot in it stands between letters and
digits.  Ids are accepted for which this is not so.

Main statement: `isSubdomain_virtualNodeName_iff`.
-/

set_option autoImplicit false

namespace VirtualNode.Kube

/-! ## Subdomains -/

/-- A lower-case ASCII letter or a digit. -/
def isLowerAlphanum (c : Char) : Bool := c.isLower || c.isDigit

/-- The text begins and ends with a lower-case letter or a digit. -/
structure EndsWell (cs : List Char) : Prop where
  nonempty : cs ≠ []
  first : ∀ c ∈ cs.head?, isLowerAlphanum c = true
  last : ∀ c ∈ cs.getLast?, isLowerAlphanum c = true

/-- What a subdomain has between two dots: lower-case letters, digits and hyphens, with no hyphen at
either end. -/
structure IsLabel (label : List Char) : Prop extends EndsWell label where
  chars : ∀ c ∈ label, isLowerAlphanum c = true ∨ c = '-'

/-- The most characters that a subdomain has. -/
def subdomainLimit : Nat := 253

/-- A text that the cluster takes for the name of a node. -/
structure IsSubdomain (s : String) : Prop where
  short : s.length ≤ subdomainLimit
  labels : ∀ label ∈ s.toList.splitOn '.', IsLabel label

/-- Every dot of a text stands between characters of a kind, as far as it stands between others at
all. -/
def DotsBetween (kind : Char → Bool) (cs : List Char) : Prop :=
  cs.IsChain fun a b => (a = '.' → kind b = true) ∧ (b = '.' → kind a = true)

/-! ## Labels -/

/-- The small letters are those from a to z. -/
theorem isLower_iff_between {c : Char} : c.isLower = true ↔ 'a' ≤ c ∧ c ≤ 'z' :=
  Bool.and_eq_true_iff.trans (and_congr decide_eq_true_iff decide_eq_true_iff)

/-- The characters of a name are small letters, digits, dashes and dots. -/
theorem isNameChar_iff {c : Char} :
    isNameChar c = true ↔ isLowerAlphanum c = true ∨ c = '-' ∨ c = '.' := by
  simp [isNameChar, isLowerAlphanum, isLower_iff_between, Char.isDigit, Char.le_def, or_assoc]

/-- What holds of texts without dots, and of a text that begins with a part without dots if it holds
of what follows the dot after it, holds of every text. -/
theorem induction_on_dots {P : List Char → Prop} (plain : ∀ label, '.' ∉ label → P label)
    (cut : ∀ label rest, '.' ∉ label → P rest → P (label ++ '.' :: rest)) (cs : List Char) :
    P cs := by
  induction hn : cs.length using Nat.strong_induction_on generalizing cs with
  | _ n ih =>
    by_cases dotted : '.' ∈ cs
    · obtain ⟨label, rest, rfl, undotted⟩ := List.eq_append_cons_of_mem dotted
      exact cut label rest undotted (ih rest.length (by simp [← hn]; omega) rest rfl)
    · exact plain cs dotted

section Labels

variable {kind : Char → Bool} {label rest : List Char}

/-- Without dots there is nothing to be between. -/
theorem dotsBetween_of_undotted (undotted : '.' ∉ label) : DotsBetween kind label := by
  refine List.isChain_iff_forall_rel_of_append_cons_cons.2 ?_
  rintro a b before after rfl
  simp only [List.mem_append, List.mem_cons, not_or] at undotted
  exact ⟨fun dot => absurd dot.symm undotted.2.1, fun dot => absurd dot.symm undotted.2.2.1⟩

/-- A label without dots may be left out in front of what does not begin with a dot. -/
theorem dotsBetween_undotted_append (undotted : '.' ∉ label) (next : '.' ∉ rest.head?) :
    DotsBetween kind (label ++ rest) ↔ DotsBetween kind rest := by
  have alone : DotsBetween kind label := dotsBetween_of_undotted undotted
  unfold DotsBetween at *
  rw [List.isChain_append]
  refine ⟨fun whole => whole.2.1, fun between => ⟨alone, between, ?_⟩⟩
  rintro a last b first
  refine ⟨?_, ?_⟩
  · rintro rfl
    exact absurd (List.mem_of_getLast? last) undotted
  · rintro rfl
    exact absurd first next

/-- At the first dot the characters on both sides are of the kind, and the rest is as well. -/
theorem dotsBetween_cut (undotted : '.' ∉ label) : DotsBetween kind (label ++ '.' :: rest) ↔
    (∀ c ∈ label.getLast?, kind c = true) ∧ (∀ c ∈ rest.head?, kind c = true) ∧
      DotsBetween kind rest := by
  have alone : DotsBetween kind label := dotsBetween_of_undotted undotted
  have plain : ∀ c ∈ label.getLast?, c ≠ '.' := by
    rintro c mem rfl
    exact undotted (List.mem_of_getLast? mem)
  unfold DotsBetween at *
  rw [List.isChain_append, List.isChain_cons]
  constructor
  · rintro ⟨-, ⟨after, later⟩, before⟩
    exact ⟨fun c mem => (before c mem '.' rfl).2 rfl, fun c mem => (after c mem).1 rfl, later⟩
  · rintro ⟨before, after, later⟩
    refine ⟨alone, ⟨fun c mem => ⟨fun _ => after c mem, ?_⟩, later⟩, fun c mem d next => ?_⟩
    · rintro rfl
      exact after '.' mem
    · exact ⟨fun dot => absurd dot (plain c mem), fun _ => before c mem⟩

/-- With a dot inside, a text ends well just if its first label begins well and its rest ends well.
-/
theorem endsWell_cut : EndsWell (label ++ '.' :: rest) ↔
    label ≠ [] ∧ (∀ c ∈ label.head?, isLowerAlphanum c = true) ∧
      rest ≠ [] ∧ ∀ c ∈ rest.getLast?, isLowerAlphanum c = true := by
  have hard : isLowerAlphanum '.' ≠ true := by decide
  constructor
  · rintro ⟨-, first, last⟩
    have some_before : label ≠ [] := by
      rintro rfl
      exact hard (first '.' rfl)
    have some_after : rest ≠ [] := by
      rintro rfl
      exact hard (last '.' (by simp))
    rw [List.head?_append_of_ne_nil _ some_before] at first
    rw [List.getLast?_append_of_ne_nil _ (by simp), List.getLast?_cons_of_ne_nil some_after] at last
    exact ⟨some_before, first, some_after, last⟩
  · rintro ⟨some_before, first, some_after, last⟩
    refine ⟨by simp, ?_, ?_⟩
    · rwa [List.head?_append_of_ne_nil _ some_before]
    · rwa [List.getLast?_append_of_ne_nil _ (by simp), List.getLast?_cons_of_ne_nil some_after]

/-- The characters of a name without dots are those of a label. -/
theorem chars_of_undotted (undotted : '.' ∉ label) (chars : ∀ c ∈ label, isNameChar c = true) :
    ∀ c ∈ label, isLowerAlphanum c = true ∨ c = '-' := by
  intro c mem
  have plain : c ≠ '.' := fun dot => undotted (dot ▸ mem)
  simpa [isNameChar_iff, plain] using chars c mem

/-- The labels of a text end well if the text does and its dots stand between letters and digits. -/
theorem isLabel_splitOn_iff {cs : List Char} (chars : ∀ c ∈ cs, isNameChar c = true) :
    (∀ label ∈ cs.splitOn '.', IsLabel label) ↔
      EndsWell cs ∧ DotsBetween isLowerAlphanum cs := by
  induction cs using induction_on_dots with
  | plain label undotted =>
    rw [List.splitOn_eq_singleton undotted, List.forall_mem_singleton]
    exact ⟨fun ok => ⟨ok.toEndsWell, dotsBetween_of_undotted undotted⟩,
      fun ok => ⟨ok.1, chars_of_undotted undotted chars⟩⟩
  | cut label rest undotted ih =>
    rw [List.forall_mem_append, List.forall_mem_cons] at chars
    obtain ⟨before, -, after⟩ := chars
    rw [List.splitOn_append_cons_self_of_not_mem undotted, List.forall_mem_cons, ih after,
      endsWell_cut, dotsBetween_cut undotted]
    constructor
    · rintro ⟨⟨⟨some_before, first, last⟩, -⟩, ⟨some_after, first', last'⟩, between⟩
      exact ⟨⟨some_before, first, some_after, last'⟩, last, first', between⟩
    · rintro ⟨⟨some_before, first, some_after, last'⟩, last, first', between⟩
      exact ⟨⟨⟨some_before, first, last⟩, chars_of_undotted undotted before⟩,
        ⟨some_after, first', last'⟩, between⟩

end Labels

/-! ## Names -/

/-- The heart of an id: what is left of it from its first ASCII letter or digit to its last. -/
def heart (id : String) : List Char := Text.trimBy (fun c => !c.isAlphanum) id.toList

section Characters

variable {c : Char}

/-- Letters are capital or small. -/
theorem isAlphanum_eq (c : Char) : c.isAlphanum = (c.isUpper || c.isLower || c.isDigit) := rfl

/-- The capital letters are those from A to Z. -/
theorem isUpper_iff_between : c.isUpper = true ↔ 'A' ≤ c ∧ c ≤ 'Z' := decide_eq_true_iff

/-- What is no capital letter stays as it is. -/
theorem lower_of_not_isUpper (other : c.isUpper = false) : lower c = c := by
  rw [lower, if_neg]
  rw [← isUpper_iff_between, other]
  exact Bool.false_ne_true

/-- A capital letter is made small. -/
theorem isLower_lower (up : c.isUpper = true) : (lower c).isLower = true := by
  have between := isUpper_iff_between.1 up
  rw [lower, if_pos between]
  have range : 65 ≤ c.toNat ∧ c.toNat ≤ 90 := between
  have valid : (c.toNat + 32).isValidChar := by
    unfold Nat.isValidChar
    omega
  have small : (Char.ofNat (c.toNat + 32)).toNat = c.toNat + 32 := by
    rw [Char.ofNat, dif_pos valid]
    rfl
  have between' : 97 ≤ (Char.ofNat (c.toNat + 32)).toNat ∧
      (Char.ofNat (c.toNat + 32)).toNat ≤ 122 := by
    omega
  exact isLower_iff_between.2 between'

/-- A character is a letter or a digit if, made small, it is a small letter or a digit. -/
theorem isLowerAlphanum_lower (c : Char) : isLowerAlphanum (lower c) = c.isAlphanum := by
  rw [isAlphanum_eq]
  cases up : c.isUpper with
  | true => simp [isLowerAlphanum, isLower_lower up]
  | false =>
    rw [lower_of_not_isUpper up]
    simp [isLowerAlphanum]

/-- Letters and digits are made small. -/
theorem nameChar_of_alphanum (alphanum : c.isAlphanum = true) : nameChar c = lower c := by
  have fits : isNameChar (lower c) = true :=
    isNameChar_iff.2 (.inl ((isLowerAlphanum_lower c).trans alphanum))
  simp [nameChar, fits]

/-- Of the other characters only dots stay what they are. -/
theorem nameChar_of_not_alphanum (other : c.isAlphanum = false) :
    nameChar c = if c = '.' then '.' else '-' := by
  have not_upper : c.isUpper = false := by
    rw [isAlphanum_eq, Bool.or_eq_false_iff, Bool.or_eq_false_iff] at other
    exact other.1.1
  have same : lower c = c := lower_of_not_isUpper not_upper
  have plain : isLowerAlphanum c = false := by rw [← same, isLowerAlphanum_lower, other]
  have fits : isNameChar c = true ↔ c = '-' ∨ c = '.' := by simp [isNameChar_iff, plain]
  simp only [nameChar, same, fits]
  by_cases dot : c = '.'
  · simp [dot]
  · by_cases hyphen : c = '-' <;> simp [dot, hyphen]

/-- Only letters and digits become small letters and digits. -/
theorem isLowerAlphanum_nameChar (c : Char) : isLowerAlphanum (nameChar c) = c.isAlphanum := by
  cases alphanum : c.isAlphanum with
  | true => rw [nameChar_of_alphanum alphanum, isLowerAlphanum_lower, alphanum]
  | false =>
    rw [nameChar_of_not_alphanum alphanum]
    split <;> decide

/-- Only a dot becomes a dot. -/
theorem nameChar_eq_dot_iff : nameChar c = '.' ↔ c = '.' := by
  cases alphanum : c.isAlphanum with
  | true =>
    have lower := (isLowerAlphanum_nameChar c).trans alphanum
    constructor
    · intro dot
      rw [dot] at lower
      cases lower
    · rintro rfl
      cases alphanum
  | false => simp [nameChar_of_not_alphanum alphanum]

/-- At the ends of a name stands what was a letter or a digit. -/
theorem isNameEdge_nameChar (c : Char) : isNameEdge (nameChar c) = !c.isAlphanum := by
  cases alphanum : c.isAlphanum with
  | true =>
    have lower := (isLowerAlphanum_nameChar c).trans alphanum
    rw [Bool.not_true, ← Bool.not_eq_true]
    intro edge
    have cases : nameChar c = '-' ∨ nameChar c = '.' := by simpa [isNameEdge] using edge
    rcases cases with is | is <;> rw [is] at lower <;> cases lower
  | false =>
    rw [nameChar_of_not_alphanum alphanum]
    split <;> decide

/-- Whatever a character is, it becomes one of a name. -/
theorem isNameChar_nameChar (c : Char) : isNameChar (nameChar c) = true := by
  unfold nameChar
  dsimp only
  split
  · assumption
  · decide

end Characters

section Trimming

variable (drop : Char → Bool) (cs : List Char)

/-- To trim what was replaced is to replace what was trimmed. -/
theorem trimBy_map (f : Char → Char) : Text.trimBy drop (cs.map f) =
    (Text.trimBy (fun c => drop (f c)) cs).map f := by
  simp only [Text.trimBy, List.dropWhile_map, ← List.map_reverse]
  rfl

/-- What is trimmed at both ends begins like what is trimmed in front. -/
theorem trimBy_prefix : Text.trimBy drop cs <+: cs.dropWhile drop := by
  rw [Text.trimBy, ← List.reverse_suffix, List.reverse_reverse]
  exact List.dropWhile_suffix _

variable {drop cs}

/-- What is trimmed does not begin with what was to be dropped. -/
theorem drop_head?_trimBy {c : Char} (h : (Text.trimBy drop cs).head? = some c) :
    drop c = false := by
  have here : (cs.dropWhile drop).head? = some c := by
    obtain ⟨more, whole⟩ := trimBy_prefix drop cs
    rw [← whole, List.head?_append, h]
    rfl
  have first := List.head?_dropWhile_not drop cs
  rw [here] at first
  simpa using first

end Trimming

section Heart

variable {id : String}

/-- The heart of an id begins with a letter or a digit. -/
theorem alphanum_head?_heart {c : Char} (first : (heart id).head? = some c) :
    c.isAlphanum = true := by
  simpa using drop_head?_trimBy first

/-- The heart of an id ends with a letter or a digit. -/
theorem alphanum_getLast?_heart {c : Char} (last : (heart id).getLast? = some c) :
    c.isAlphanum = true := by
  simpa using Text.drop_getLast?_trimBy last

/-- The name of a node is a prefix and the heart of its id, character by character. -/
theorem toList_virtualNodeName (id : String) : (virtualNodeName id).toList =
    ['v', 'n', 'o', 'd', 'e'] ++
      if heart id = [] then [] else '-' :: (heart id).map nameChar := by
  have kept : Text.trimBy isNameEdge (id.toList.map nameChar) = (heart id).map nameChar := by
    simp only [trimBy_map, isNameEdge_nameChar, heart]
  rw [virtualNodeName, kept]
  cases heart id with
  | nil => rfl
  | cons c rest => simp

/-- Whatever the id: the name has the right characters. -/
theorem isNameChar_virtualNodeName (id : String) :
    ∀ c ∈ (virtualNodeName id).toList, isNameChar c = true := by
  rw [toList_virtualNodeName, List.forall_mem_append]
  refine ⟨by simp [isNameChar], ?_⟩
  split
  · simp
  · rw [List.forall_mem_cons, List.forall_mem_map]
    exact ⟨rfl, fun c _ => isNameChar_nameChar c⟩

/-- Whatever the id: the name has the right ends. -/
theorem endsWell_virtualNodeName (id : String) : EndsWell (virtualNodeName id).toList := by
  have first : isLowerAlphanum 'v' = true := by decide
  have last : isLowerAlphanum 'e' = true := by decide
  rw [toList_virtualNodeName]
  split
  · exact ⟨by simp, by simpa using first, by simpa using last⟩
  · rename_i some_heart
    refine ⟨by simp, by simpa using first, fun c mem => ?_⟩
    rw [List.getLast?_append_of_ne_nil _ (by simp),
      List.getLast?_cons_of_ne_nil (by simpa using some_heart), List.getLast?_map] at mem
    obtain ⟨d, last, rfl⟩ := Option.map_eq_some_iff.1 mem
    rw [isLowerAlphanum_nameChar, alphanum_getLast?_heart last]

/-- The name is short enough just if the heart of the id leaves room for the prefix. -/
theorem length_virtualNodeName_le_iff (id : String) : (virtualNodeName id).length ≤ subdomainLimit ↔
    "vnode-".length + (heart id).length ≤ subdomainLimit := by
  have start : "vnode-".length = 6 := rfl
  rw [← String.length_toList, toList_virtualNodeName]
  split
  · rename_i no_heart
    simp [no_heart, start, subdomainLimit]
  · simp [start, subdomainLimit]
    omega

/-- The dots of the name are well placed just if those of the heart are. -/
theorem dotsBetween_virtualNodeName_iff (id : String) :
    DotsBetween isLowerAlphanum (virtualNodeName id).toList ↔
      DotsBetween Char.isAlphanum (heart id) := by
  have mapped : DotsBetween isLowerAlphanum ((heart id).map nameChar) ↔
      DotsBetween Char.isAlphanum (heart id) := by
    simp only [DotsBetween, List.isChain_map, nameChar_eq_dot_iff, isLowerAlphanum_nameChar]
  rw [toList_virtualNodeName]
  split
  · rename_i no_heart
    rw [no_heart]
    exact ⟨fun _ => List.isChain_nil, fun _ => dotsBetween_of_undotted (by simp)⟩
  · -- what stands before the heart has no dot, and neither does the heart begin with one
    rw [← mapped, List.append_cons]
    refine dotsBetween_undotted_append (by simp) ?_
    rw [List.head?_map, Option.mem_def, Option.map_eq_some_iff]
    rintro ⟨c, first, dot⟩
    have alphanum := alphanum_head?_heart first
    rw [nameChar_eq_dot_iff.1 dot] at alphanum
    cases alphanum

end Heart

/-- The name made from an id is a subdomain exactly if the heart of the id is short enough and every
dot in it stands between letters and digits.  Whatever the id, the name has the right characters
and the right ends. -/
theorem isSubdomain_virtualNodeName_iff (id : String) :
    (∀ c ∈ (virtualNodeName id).toList, isNameChar c = true) ∧
      EndsWell (virtualNodeName id).toList ∧
      (IsSubdomain (virtualNodeName id) ↔
        "vnode-".length + (heart id).length ≤ subdomainLimit ∧
          DotsBetween Char.isAlphanum (heart id)) := by
  have chars := isNameChar_virtualNodeName id
  have ends := endsWell_virtualNodeName id
  refine ⟨chars, ends, ?_⟩
  rw [← length_virtualNodeName_le_iff, ← dotsBetween_virtualNodeName_iff]
  constructor
  · rintro ⟨short, labels⟩
    exact ⟨short, ((isLabel_splitOn_iff chars).1 labels).2⟩
  · rintro ⟨short, between⟩
    exact ⟨short, (isLabel_splitOn_iff chars).2 ⟨ends, between⟩⟩

/-- So it is not true of every id that is accepted that the name made from it is a subdomain: two dots
in a row stay two dots in a row, and between them is an empty label. -/
theorem exists_malformed_nodeName : ¬ ∀ settings : Controller.Settings,
    settings.validate = .ok () → IsSubdomain settings.nodeName := by
  intro h
  have said := h (.standard ⟨"a..b", "", "", "", ""⟩) rfl
  exact (said.labels [] (by decide)).nonempty rfl

end VirtualNode.Kube
