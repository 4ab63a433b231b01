import VirtualNode.Json.Row

/-!
# Rows by the values of their fields

The members of an object enter a row one after the other, each at the field to which its name
belongs.  What comes of it is decided field by field: a cell which is given one value of its kind
holds that value, one which is given none stays empty, and with anything else no row comes out.  So
the order in which an object gives its fields their values does not matter.

Main statements: `enter_eq_some_iff` and, derived from it, `ofValue?_congr`.
-/

set_option autoImplicit false

namespace VirtualNode.Json.Row

/-- The values that members give to the field at a position, in their order. -/
def valuesOf (fields : List Field) (i : Nat) (ms : Members) : List Value :=
  (ms.filter fun m => position? fields m.1 = some i).map Prod.snd

/-- What a cell holds after it was given some values. -/
def fillCell (kind : ScalarKind) : Option Scalar → List Value → Option (Option Scalar)
  | cell, [] => some cell
  | some _, _ :: _ => none
  | none, v :: vs =>
    match kind.ofValue? v with
    | none => none
    | some s => fillCell kind (some s) vs

/-- A field that is given twice cannot be filled. -/
theorem fillCell_eq_none_of_several {kind : ScalarKind} {vs : List Value}
    (several : 2 ≤ vs.length) : fillCell kind none vs = none := by
  rcases vs with _ | ⟨v, _ | ⟨w, vs⟩⟩
  · simp at several
  · simp at several
  · cases value : kind.ofValue? v <;> simp [fillCell, value]

/-- No field takes null. -/
theorem ofValue?_null (kind : ScalarKind) : kind.ofValue? .null = none := by
  cases kind <;> rfl

/-- A field that is given as null cannot be filled. -/
theorem fillCell_eq_none_of_null {kind : ScalarKind} {vs : List Value} (null : .null ∈ vs) :
    fillCell kind none vs = none := by
  rcases vs with _ | ⟨v, _ | ⟨w, vs⟩⟩
  · cases null
  · obtain rfl : Value.null = v := by simpa using null
    simp [fillCell, ofValue?_null]
  · exact fillCell_eq_none_of_several (by simp)

/-- What fills a field does not depend on the order in which it is given. -/
theorem fillCell_perm (kind : ScalarKind) {vs ws : List Value} (perm : vs.Perm ws) :
    fillCell kind none vs = fillCell kind none ws := by
  -- the order matters to several values only, and a cell takes one at most
  by_cases several : 2 ≤ vs.length
  · rw [fillCell_eq_none_of_several several,
      fillCell_eq_none_of_several (perm.length_eq ▸ several)]
  · obtain rfl : vs = ws := by
      rcases vs with _ | ⟨v, _ | ⟨w, vs⟩⟩
      · exact perm.nil_eq
      · exact List.perm_singleton.1 perm.symm ▸ rfl
      · simp at several
    rfl

section Values

variable {fields : List Field} {i j : Nat} {k : String} {v : Value} {ms : Members}

/-- The value of a member is among those of its field. -/
theorem valuesOf_cons_here (here : position? fields k = some i) :
    valuesOf fields i ((k, v) :: ms) = v :: valuesOf fields i ms := by
  simp [valuesOf, here]

/-- The value of a member is not among those of another field. -/
theorem valuesOf_cons_other (other : position? fields k ≠ some i) :
    valuesOf fields i ((k, v) :: ms) = valuesOf fields i ms := by
  simp [valuesOf, other]

/-- The values of a field are those among the earlier members and the later ones. -/
theorem valuesOf_append (ms ms' : Members) :
    valuesOf fields i (ms ++ ms') = valuesOf fields i ms ++ valuesOf fields i ms' := by
  simp [valuesOf]

/-- The values of a field are the same in another order of the members. -/
theorem valuesOf_perm {ms' : Members} (perm : ms.Perm ms') :
    (valuesOf fields i ms).Perm (valuesOf fields i ms') :=
  (perm.filter _).map _

/-- A member's value is among those of its field. -/
theorem mem_valuesOf (here : position? fields k = some i) (mem : (k, v) ∈ ms) :
    v ∈ valuesOf fields i ms :=
  List.mem_map_of_mem (List.mem_filter.2 ⟨mem, by simpa using here⟩)

/-- A name stands for one of the fields. -/
theorem position?_lt (here : position? fields k = some i) : i < fields.length :=
  (List.findIdx?_eq_some_iff_findIdx_eq.1 here).1

end Values

section Enter

variable {fields : List Field} {row row' : Row}

/-- Rows of the same length with the same cells are the same. -/
theorem cells_eq_iff : (row'.length = row.length ∧ ∀ i < row.length, row[i]?.join = row'[i]?.join) ↔
    row = row' := by
  constructor
  · rintro ⟨length, cells⟩
    refine List.ext_getElem length.symm fun i inside inside' => ?_
    simpa [inside, inside'] using cells i inside
  · rintro rfl
    exact ⟨rfl, fun _ _ => rfl⟩

/-- A row that members make: every cell holds what the values of its field make of it. -/
theorem enter_eq_some_iff (ms : Members) (length : row.length = fields.length) :
    enter fields ms row = some row' ↔
      row'.length = row.length ∧ ∀ i < row.length,
        fillCell (kindAt fields i) row[i]?.join (valuesOf fields i ms) = some row'[i]?.join := by
  induction ms generalizing row with
  | nil => simp [enter, fillCell, valuesOf, ← cells_eq_iff]
  | cons m ms ih =>
    obtain ⟨k, v⟩ := m
    rw [enter]
    cases name : position? fields k with
    | none =>
      have unmoved : ∀ i, valuesOf fields i ((k, v) :: ms) = valuesOf fields i ms :=
        fun i => valuesOf_cons_other (by simp [name])
      simp only [unmoved]
      exact ih length
    | some i =>
      have inside : i < row.length := by
        rw [length]
        exact position?_lt name
      have mine : valuesOf fields i ((k, v) :: ms) = v :: valuesOf fields i ms :=
        valuesOf_cons_here name
      dsimp only
      cases cell : row[i]?.join with
      | some taken =>
        -- the field had a value already
        have given : given row i = true := by simp [given, cell]
        rw [if_pos given]
        refine iff_of_false (by simp) fun made => ?_
        have filled := made.2 i inside
        rw [mine, cell] at filled
        cases filled
      | none =>
        have free : ¬ given row i = true := by simp [given, cell]
        rw [if_neg free]
        cases value : (kindAt fields i).ofValue? v with
        | none =>
          refine iff_of_false (by simp) fun made => ?_
          have filled := made.2 i inside
          rw [mine, cell, fillCell, value] at filled
          cases filled
        | some s =>
          dsimp only
          rw [ih (by simpa using length), List.length_set]
          refine and_congr_right fun _ => forall_congr' fun j => imp_congr_right fun _ => ?_
          by_cases here : j = i
          · subst here
            rw [mine, cell, fillCell, value]
            simp [inside]
          · have other : position? fields k ≠ some j := by
              rw [name]
              exact fun same => here (Option.some.inj same).symm
            rw [valuesOf_cons_other other, List.getElem?_set_ne (Ne.symm here)]

end Enter

section Start

variable {fields : List Field} {ms : Members}

/-- At the start there is a cell for every field. -/
theorem length_start : (start fields).length = fields.length := by
  simp [start]

/-- At the start all cells are empty. -/
theorem start_cell (i : Nat) : (start fields)[i]?.join = none := by
  by_cases inside : i < fields.length <;> simp [start, inside]

/-- The row of an object depends on nothing but what the values of each field make of its cell. -/
theorem enter_congr {ms' : Members}
    (same : ∀ i, fillCell (kindAt fields i) none (valuesOf fields i ms) =
      fillCell (kindAt fields i) none (valuesOf fields i ms')) :
    enter fields ms (start fields) = enter fields ms' (start fields) := by
  ext row
  rw [enter_eq_some_iff ms length_start, enter_eq_some_iff ms' length_start]
  simp only [start_cell, same]

/-- An object with a field that cannot be filled is not read. -/
theorem ofValue?_eq_none {i : Nat} (inside : i < fields.length)
    (misfit : fillCell (kindAt fields i) none (valuesOf fields i ms) = none) :
    ofValue? fields (.object ms) = none := by
  have nothing : enter fields ms (start fields) = none := by
    rw [Option.eq_none_iff_forall_ne_some]
    intro row entered
    obtain ⟨-, cells⟩ := (enter_eq_some_iff ms length_start).1 entered
    have filled := cells i (by rwa [length_start])
    rw [start_cell, misfit] at filled
    cases filled
  simp [ofValue?, nothing]

/-- An object may give its fields their values in any order. -/
theorem ofValue?_congr {ms' : Members}
    (perm : ∀ i, (valuesOf fields i ms).Perm (valuesOf fields i ms')) :
    ofValue? fields (.object ms) = ofValue? fields (.object ms') := by
  have cells := enter_congr fun i => fillCell_perm (kindAt fields i) (perm i)
  simp only [ofValue?, cells]

end Start

end VirtualNode.Json.Row
