/-!
# Tables

A table maps keys to values and remembers the order in which the keys came.  `insert` replaces
the value of a key in place and puts a new key last; `erase` takes a key out.  No key occurs
twice.  Main statements: what `get?` answers after `insert` and `erase`.
-/

set_option autoImplicit false

namespace VirtualNode

variable {κ ν : Type} [DecidableEq κ]

namespace Table

/-- Replaces the value of a key in place, or puts the new pair last. -/
def put (k : κ) (v : ν) : List (κ × ν) → List (κ × ν)
  | [] => [(k, v)]
  | (j, w) :: rest => if j = k then (k, v) :: rest else (j, w) :: put k v rest

/-- A key that is put in is there, and the other keys are those that were. -/
theorem mem_keys_put {k : κ} {v : ν} {xs : List (κ × ν)} {j : κ} :
    j ∈ (put k v xs).map Prod.fst ↔ j = k ∨ j ∈ xs.map Prod.fst := by
  induction xs with
  | nil => simp [put]
  | cons x xs ih =>
    by_cases h : x.1 = k
    · simp [put, h]
    · simp only [put, h, if_false, List.map_cons, List.mem_cons, ih]
      constructor
      · rintro (h | h | h) <;> simp [h]
      · rintro (h | h | h) <;> simp [h]

/-- Every key stays there once when one is put in. -/
theorem nodup_put {k : κ} {v : ν} {xs : List (κ × ν)} (h : (xs.map Prod.fst).Nodup) :
    ((put k v xs).map Prod.fst).Nodup := by
  induction xs with
  | nil => simp [put]
  | cons x xs ih =>
    simp only [List.map_cons, List.nodup_cons] at h
    by_cases hk : x.1 = k
    · subst hk
      simpa [put] using h
    · simp only [put, hk, if_false, List.map_cons, List.nodup_cons]
      refine ⟨fun hm => ?_, ih h.2⟩
      rcases mem_keys_put.1 hm with hm | hm
      · exact hk hm
      · exact h.1 hm

end Table

/-- Pairs of a key and a value in the order in which the keys came, no key twice. -/
structure Table (κ ν : Type) [DecidableEq κ] where
  /-- The pairs, oldest key first. -/
  entries : List (κ × ν)
  /-- No key occurs twice. -/
  nodup : (entries.map Prod.fst).Nodup

namespace Table

/-- The table without entries. -/
def empty : Table κ ν := ⟨[], List.nodup_nil⟩

instance : EmptyCollection (Table κ ν) := ⟨empty⟩

instance : Inhabited (Table κ ν) := ⟨empty⟩

/-- The keys, oldest first. -/
def keys (t : Table κ ν) : List κ := t.entries.map Prod.fst

/-- The number of keys. -/
def size (t : Table κ ν) : Nat := t.entries.length

/-- The value of a key. -/
def get? (t : Table κ ν) (k : κ) : Option ν :=
  (t.entries.find? fun e => e.1 = k).map Prod.snd

/-- Whether the key is present. -/
def contains (t : Table κ ν) (k : κ) : Bool := (t.get? k).isSome

/-- Gives a key a value: in place if the key is present, else last. -/
def insert (t : Table κ ν) (k : κ) (v : ν) : Table κ ν :=
  ⟨put k v t.entries, nodup_put t.nodup⟩

/-- Takes a key out. -/
def erase (t : Table κ ν) (k : κ) : Table κ ν :=
  ⟨t.entries.filter fun e => e.1 ≠ k,
    (List.filter_sublist.map Prod.fst).nodup t.nodup⟩

/-- The table of pairs, a later pair winning over an earlier one of the same key. -/
def ofList (xs : List (κ × ν)) : Table κ ν :=
  xs.foldl (fun t e => t.insert e.1 e.2) empty

/-- Nothing is found in the empty table. -/
@[simp]
theorem get?_empty (k : κ) : (empty : Table κ ν).get? k = none := rfl

/-- What is put in is found under its key, and under other keys what was there before. -/
theorem find?_put {k j : κ} {v : ν} {xs : List (κ × ν)} :
    ((put k v xs).find? fun e => e.1 = j).map Prod.snd
      = if k = j then some v else (xs.find? fun e => e.1 = j).map Prod.snd := by
  induction xs with
  | nil => by_cases h : k = j <;> simp [put, h]
  | cons x xs ih =>
    by_cases hx : x.1 = k
    · by_cases hj : k = j
      · simp [put, hx, hj]
      · simp [put, hx, hj]
    · by_cases hj : x.1 = j
      · have hkj : k ≠ j := fun h => hx (hj.trans h.symm)
        simp [put, hj, hkj, hkj.symm]
      · simp [put, hx, hj, ih]

/-- A look-up after an insertion. -/
theorem get?_insert (t : Table κ ν) (k j : κ) (v : ν) :
    (t.insert k v).get? j = if k = j then some v else t.get? j :=
  find?_put

/-- A look-up after a removal. -/
theorem get?_erase (t : Table κ ν) (k j : κ) :
    (t.erase k).get? j = if k = j then none else t.get? j := by
  simp only [erase, get?]
  induction t.entries with
  | nil => by_cases h : k = j <;> simp [h]
  | cons x xs ih =>
    by_cases hk : x.1 = k
    · simp only [hk, ne_eq, not_true_eq_false, decide_false, Bool.false_eq_true,
        not_false_eq_true, List.filter_cons_of_neg, ih]
      by_cases hj : k = j
      · simp [hj]
      · simp [hj, hk]
    · simp only [ne_eq, hk, not_false_eq_true, decide_true, List.filter_cons_of_pos]
      by_cases hj : x.1 = j
      · have hkj : k ≠ j := fun h => hk (hj.trans h.symm)
        simp [hj, hkj]
      · simp only [hj, decide_false, Bool.false_eq_true, not_false_eq_true,
          List.find?_cons_of_neg, ih]

/-- A table has the value of a key among its pairs. -/
theorem get?_eq_some_iff (t : Table κ ν) (k : κ) (v : ν) :
    t.get? k = some v ↔ (k, v) ∈ t.entries := by
  obtain ⟨entries, nodup⟩ := t
  simp only [get?]
  induction entries with
  | nil => simp
  | cons x xs ih =>
    simp only [List.map_cons, List.nodup_cons] at nodup
    by_cases hx : x.1 = k
    · have absent : (k, v) ∉ xs := fun h => nodup.1 (hx ▸ List.mem_map_of_mem h)
      simp only [hx, decide_true, List.find?_cons_of_pos, Option.map_some, Option.some.injEq,
        List.mem_cons, absent, or_false]
      constructor
      · rintro rfl
        rw [← hx]
      · intro h
        rw [← h]
    · have other : (k, v) ≠ x := fun h => hx (h ▸ rfl)
      simp only [hx, decide_false, Bool.false_eq_true, not_false_eq_true,
        List.find?_cons_of_neg, ih nodup.2, List.mem_cons, other, false_or]

/-- The keys of a table are those that have a value. -/
theorem mem_keys_iff (t : Table κ ν) (k : κ) : k ∈ t.keys ↔ t.get? k ≠ none := by
  simp only [keys, List.mem_map, Option.ne_none_iff_exists', get?_eq_some_iff]
  constructor
  · rintro ⟨e, he, rfl⟩
    exact ⟨e.2, he⟩
  · rintro ⟨v, hv⟩
    exact ⟨(k, v), hv, rfl⟩

/-- A new key is put at the end, and one that is there keeps its place. -/
theorem map_fst_put {k : κ} {v : ν} {xs : List (κ × ν)} :
    (put k v xs).map Prod.fst =
      if k ∈ xs.map Prod.fst then xs.map Prod.fst else xs.map Prod.fst ++ [k] := by
  induction xs with
  | nil => rfl
  | cons x xs ih =>
    by_cases here : x.1 = k
    · simp [put, here]
    · simp only [put, here, if_false, List.map_cons, List.mem_cons, Ne.symm here, false_or, ih]
      split
      · rfl
      · rfl

/-- A new key comes last, and one that is present keeps its place. -/
theorem keys_insert (t : Table κ ν) (k : κ) (v : ν) :
    (t.insert k v).keys = if k ∈ t.keys then t.keys else t.keys ++ [k] :=
  map_fst_put

/-- The keys that a removal leaves keep their places. -/
theorem keys_erase (t : Table κ ν) (k : κ) : (t.erase k).keys = t.keys.filter (· ≠ k) := by
  rw [keys, erase, keys, List.filter_map]
  rfl

end Table

end VirtualNode
