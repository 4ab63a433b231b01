import VirtualNode.Topic.Filter

/-!
# What filters match

The levels of a topic are its parts between slashes.  What a filter says of a topic can be told
from their parts, place by place (`matchLevels_iff`): the parts of the filter, up to the first
wildcard for the rest, stand for the parts of the topic at the same places, and without such a
wildcard there are as many of them.

In a valid filter a wildcard fills its level, and the one for the rest is the last level.  A plain
filter has no wildcards and matches nothing but itself.

Main statements: `filterMatches_iff_of_valid` and `filterMatches_iff_eq_of_plain`.
-/

set_option autoImplicit false

namespace VirtualNode.Topic

/-! ## Parts -/

/-- The parts of a text between slashes. -/
def parts (s : String) : List (List Char) := s.toList.splitOn '/'

/-- Every text has a level. -/
theorem split_ne_nil (cs : List Char) : levels.split cs ≠ [] := by
  fun_cases levels.split cs
  all_goals apply List.cons_ne_nil

/-- A character other than a slash belongs to the first level. -/
theorem split_cons_of_ne {c : Char} (ne : c ≠ '/') (cs : List Char) :
    ∃ level rest, levels.split cs = level :: rest ∧
      levels.split (c :: cs) = (c :: level) :: rest := by
  obtain ⟨level, rest, cut⟩ := List.exists_cons_of_ne_nil (split_ne_nil cs)
  exact ⟨level, rest, cut, by simp [levels.split, cut]⟩

/-- The levels of a text are those of the library's split at slashes. -/
theorem split_eq_splitOn (cs : List Char) : levels.split cs = cs.splitOn '/' := by
  induction cs with
  | nil => rfl
  | cons c cs ih =>
    rw [List.splitOn_cons_eq_if_modifyHead, ← ih]
    by_cases slash : c = '/'
    · simp [slash, levels.split]
    · obtain ⟨level, rest, cut, cut'⟩ := split_cons_of_ne slash cs
      simp [slash, cut, cut']

/-- The levels of a topic are its parts between slashes. -/
theorem levels_eq_parts (s : String) : levels s = parts s :=
  split_eq_splitOn s.toList

/-- A text is determined by its parts. -/
theorem parts_inj {s t : String} : parts s = parts t ↔ s = t := by
  constructor
  · intro same
    have texts := congrArg (['/'].intercalate ·) same
    simp only [parts, List.intercalate_splitOn] at texts
    exact String.toList_inj.1 texts
  · rintro rfl
    rfl

/-- A character other than a slash is in a text just if it is in a level. -/
theorem mem_split_iff {c : Char} (ne : c ≠ '/') (cs : List Char) :
    (∃ level ∈ levels.split cs, c ∈ level) ↔ c ∈ cs := by
  induction cs with
  | nil => simp [levels.split]
  | cons d cs ih =>
    rw [List.mem_cons, ← ih]
    by_cases slash : d = '/'
    · simp [slash, levels.split, ne]
    · obtain ⟨level, rest, cut, cut'⟩ := split_cons_of_ne slash cs
      simp [cut, cut', or_assoc]

/-- A character other than a slash is in a text just if it is in a part. -/
theorem mem_parts_iff {c : Char} (ne : c ≠ '/') (s : String) :
    (∃ level ∈ parts s, c ∈ level) ↔ c ∈ s.toList := by
  rw [parts, ← split_eq_splitOn, mem_split_iff ne]

/-! ## Agreement -/

/-- A level of a filter stands for a level of a topic: it is the wildcard for one level, or the
same. -/
def StandsFor (f t : List Char) : Prop := f = ['+'] ∨ f = t

/-- The levels of a filter stand for those of a topic at the same places, as far as there are
both. -/
def Agree (fs ts : List (List Char)) : Prop :=
  ∀ (i : Nat) (f t : List Char), fs[i]? = some f → ts[i]? = some t → StandsFor f t

section Agreement

variable {f t : List Char} {fs ts : List (List Char)}

/-- A filter without levels agrees with everything. -/
theorem agree_nil : Agree [] ts := by
  intro i f t here
  cases here

/-- Levels agree if the first ones and the others do. -/
theorem agree_cons : Agree (f :: fs) (t :: ts) ↔ StandsFor f t ∧ Agree fs ts := by
  constructor
  · intro agree
    exact ⟨agree 0 f t rfl rfl, fun i => agree (i + 1)⟩
  · rintro ⟨first, rest⟩ i f' t' here there
    cases i with
    | zero =>
      cases here
      cases there
      exact first
    | succ i => exact rest i f' t' here there

/-- Levels that agree are the same if there are as many of them and none is a wildcard. -/
theorem Agree.eq (agree : Agree fs ts) (same : fs.length = ts.length) (none_wild : ['+'] ∉ fs) :
    fs = ts := by
  apply List.ext_getElem same
  intro i here there
  rcases agree i _ _ (List.getElem?_eq_getElem here) (List.getElem?_eq_getElem there) with wild | eq
  · exact absurd (wild ▸ List.getElem_mem here) none_wild
  · exact eq

/-- What the levels of a filter say of the levels of a topic. -/
def Meets (fs ts : List (List Char)) : Prop :=
  (['#'] ∉ fs ∧ fs.length = ts.length ∧ Agree fs ts) ∨
    ∃ before after, fs = before ++ ['#'] :: after ∧ ['#'] ∉ before ∧
      before.length ≤ ts.length ∧ Agree before ts

/-- The wildcard for the rest meets everything. -/
theorem meets_rest : Meets (['#'] :: fs) ts :=
  .inr ⟨[], fs, rfl, by simp, by simp, agree_nil⟩

/-- A filter without levels meets nothing but a topic without levels. -/
theorem meets_nil : Meets [] ts ↔ ts = [] := by
  simp [Meets, agree_nil, eq_comm]

/-- A filter with a level does not meet a topic without one, unless it is the wildcard for the rest.
-/
theorem not_meets_cons_nil (ne : f ≠ ['#']) : ¬ Meets (f :: fs) [] := by
  rintro (⟨-, same, -⟩ | ⟨before, after, cut, -, short, -⟩)
  · cases same
  · rw [List.length_nil, Nat.le_zero, List.length_eq_zero_iff] at short
    subst short
    exact ne (List.cons.inj cut).1

/-- A filter meets a topic if the first levels and the others do. -/
theorem meets_cons (ne : f ≠ ['#']) :
    Meets (f :: fs) (t :: ts) ↔ StandsFor f t ∧ Meets fs ts := by
  constructor
  · rintro (⟨no_rest, same, agree⟩ | ⟨before, after, cut, first, short, agree⟩)
    · rw [agree_cons] at agree
      rw [List.mem_cons, not_or] at no_rest
      exact ⟨agree.1, .inl ⟨no_rest.2, Nat.succ.inj same, agree.2⟩⟩
    · cases before with
      | nil => exact absurd (List.cons.inj cut).1 ne
      | cons b before =>
        obtain ⟨rfl, rfl⟩ := List.cons.inj cut
        rw [agree_cons] at agree
        rw [List.mem_cons, not_or] at first
        exact ⟨agree.1, .inr ⟨before, after, rfl, first.2, Nat.le_of_succ_le_succ short, agree.2⟩⟩
  · rintro ⟨stands, ⟨no_rest, same, agree⟩ | ⟨before, after, rfl, first, short, agree⟩⟩
    · exact .inl ⟨by simp [ne.symm, no_rest], by simp [same], agree_cons.2 ⟨stands, agree⟩⟩
    · exact .inr ⟨f :: before, after, rfl, by simp [ne.symm, first], Nat.succ_le_succ short,
        agree_cons.2 ⟨stands, agree⟩⟩

/-- The search over levels finds out whether they meet. -/
theorem matchLevels_iff : matchLevels fs ts = true ↔ Meets fs ts := by
  fun_induction matchLevels fs ts with
  | case1 => simp [meets_rest]
  | case2 fs t ts ih => simp [meets_cons, StandsFor, ih]
  | case3 f fs t ts no_rest not_one ih =>
    rw [meets_cons no_rest, StandsFor, or_iff_right not_one, Bool.and_eq_true, decide_eq_true_eq,
      ih]
  | case4 => simp [meets_nil]
  | case5 fs ts no_rest _ not_both not_none =>
    rw [Bool.false_eq_true, false_iff]
    cases fs with
    | nil => exact fun meets => not_none rfl (meets_nil.1 meets)
    | cons f fs =>
      cases ts with
      | nil => exact not_meets_cons_nil fun wild => no_rest fs (wild ▸ rfl)
      | cons t ts => exact absurd rfl (not_both f fs t ts rfl)

/-- Levels meet themselves. -/
theorem meets_self (ts : List (List Char)) : Meets ts ts := by
  induction ts with
  | nil => exact meets_nil.2 rfl
  | cons t ts ih =>
    by_cases wild : t = ['#']
    · exact wild ▸ meets_rest
    · exact (meets_cons wild).2 ⟨.inr rfl, ih⟩

end Agreement

/-! ## Valid filters -/

/-- A filter in which every wildcard fills its level and the one for the rest is the last level. -/
structure Valid (filter : String) : Prop where
  one : ∀ level ∈ parts filter, '+' ∈ level → level = ['+']
  rest : ∀ level ∈ parts filter, '#' ∈ level → level = ['#']
  last : ['#'] ∉ (parts filter).dropLast

instance (filter : String) : Decidable (Valid filter) :=
  decidable_of_iff
    ((∀ level ∈ parts filter, '+' ∈ level → level = ['+']) ∧
      (∀ level ∈ parts filter, '#' ∈ level → level = ['#']) ∧ ['#'] ∉ (parts filter).dropLast)
    ⟨fun h => ⟨h.1, h.2.1, h.2.2⟩, fun h => ⟨h.one, h.rest, h.last⟩⟩

/-- The first level of a filter is a wildcard. -/
def BeginsWild (filter : String) : Prop :=
  (parts filter).head? = some ['+'] ∨ (parts filter).head? = some ['#']

instance (filter : String) : Decidable (BeginsWild filter) := inferInstanceAs (Decidable (_ ∨ _))

/-- A text starts wild if its first character is a wildcard. -/
theorem startsWild_iff_head? {cs : List Char} :
    startsWild cs = true ↔ cs.head? = some '+' ∨ cs.head? = some '#' := by
  unfold startsWild
  split
  · simp
  · simp
  · rename_i not_one not_rest
    rw [Bool.false_eq_true, false_iff, not_or, List.head?_eq_some_iff, List.head?_eq_some_iff]
    exact ⟨fun ⟨tail, is⟩ => not_one tail is, fun ⟨tail, is⟩ => not_rest tail is⟩

section Filters

variable {filter topic : String}

/-- A valid filter starts wild just if its first level is a wildcard. -/
theorem Valid.startsWild_iff (valid : Valid filter) :
    startsWild filter.toList = true ↔ BeginsWild filter := by
  have one := valid.one
  have rest := valid.rest
  rw [startsWild_iff_head?, BeginsWild]
  rw [parts, ← split_eq_splitOn] at one rest ⊢
  generalize filter.toList = cs at one rest ⊢
  cases cs with
  | nil => simp [levels.split]
  | cons c cs =>
    by_cases slash : c = '/'
    · simp [slash, levels.split]
    · obtain ⟨level, others, -, cut⟩ := split_cons_of_ne slash cs
      rw [cut, List.forall_mem_cons] at one rest
      rw [cut, List.head?_cons, List.head?_cons, Option.some_inj, Option.some_inj, Option.some_inj,
        Option.some_inj]
      constructor
      · rintro (rfl | rfl)
        · exact .inl (one.1 List.mem_cons_self)
        · exact .inr (rest.1 List.mem_cons_self)
      · rintro (wild | wild)
        · exact .inl (List.cons.inj wild).1
        · exact .inr (List.cons.inj wild).1

/-- A valid filter has the wildcard for the rest as a level just if it has its character. -/
theorem Valid.mem_rest_iff (valid : Valid filter) :
    ['#'] ∈ parts filter ↔ '#' ∈ filter.toList := by
  rw [← mem_parts_iff (by decide)]
  constructor
  · intro here
    exact ⟨_, here, List.mem_singleton_self _⟩
  · rintro ⟨level, here, wild⟩
    exact valid.rest level here wild ▸ here

/-- In a valid filter nothing comes after the wildcard for the rest. -/
theorem Valid.rest_last (valid : Valid filter) {before after : List (List Char)}
    (cut : parts filter = before ++ ['#'] :: after) : after = [] := by
  have last := valid.last
  rw [cut] at last
  cases after with
  | nil => rfl
  | cons level after => simp at last

/-- A valid filter matches the topics that have as many levels, if it has no wildcard for the rest,
or at least as many as stand before that wildcard, and for whose levels its own ones stand.  A topic
that begins with a dollar sign is matched by no filter that begins with a wildcard. -/
theorem filterMatches_iff_of_valid (valid : Valid filter) (topic : String) :
    filterMatches filter topic = true ↔
      ¬ (topic.toList.head? = some '$' ∧ BeginsWild filter) ∧
        (('#' ∉ filter.toList ∧ (parts filter).length = (parts topic).length ∧
            Agree (parts filter) (parts topic)) ∨
          ∃ before, parts filter = before ++ [['#']] ∧ before.length ≤ (parts topic).length ∧
            Agree before (parts topic)) := by
  rw [filterMatches, levels_eq_parts, levels_eq_parts, Bool.and_eq_true, matchLevels_iff,
    Bool.not_eq_true', Bool.and_eq_false_imp, isSystem, decide_eq_true_eq, not_and,
    ← valid.startsWild_iff, Bool.not_eq_true, ← valid.mem_rest_iff, Meets]
  refine and_congr_right fun _ => or_congr_right ⟨?_, ?_⟩
  · rintro ⟨before, after, cut, -, short, agree⟩
    obtain rfl := valid.rest_last cut
    exact ⟨before, cut, short, agree⟩
  · rintro ⟨before, cut, short, agree⟩
    have last := valid.last
    rw [cut, List.dropLast_concat] at last
    exact ⟨before, [], cut, last, short, agree⟩

/-- A topic is matched by the filter for all that is below it, and one that begins with a dollar
sign is not. -/
theorem filterMatches_iff_of_valid_parent :
    (Valid "a/+/#" ∧ filterMatches "a/+/#" "a/b" = true) ∧
      (Valid "+/#" ∧ filterMatches "+/#" "$SYS/uptime" = false) := by
  have valid : Valid "a/+/#" := by decide
  have valid' : Valid "+/#" := by decide
  have agree : Agree [['a'], ['+']] (parts "a/b") :=
    agree_cons.2 ⟨.inr rfl, agree_cons.2 ⟨.inl rfl, agree_nil⟩⟩
  refine ⟨⟨valid, ?_⟩, valid', ?_⟩
  · refine (filterMatches_iff_of_valid valid "a/b").2 ⟨by decide, .inr ⟨_, ?_, ?_, agree⟩⟩
    · decide
    · decide
  · rw [← Bool.not_eq_true, filterMatches_iff_of_valid valid' "$SYS/uptime"]
    exact fun h => h.1 ⟨by decide, .inl (by decide)⟩

/-! ## Plain filters -/

/-- A filter without wildcards. -/
def Plain (filter : String) : Prop := '+' ∉ filter.toList ∧ '#' ∉ filter.toList

instance (filter : String) : Decidable (Plain filter) := inferInstanceAs (Decidable (_ ∧ _))

/-- A plain filter does not start wild. -/
theorem Plain.not_startsWild (plain : Plain filter) : startsWild filter.toList = false := by
  rw [← Bool.not_eq_true, startsWild_iff_head?, not_or]
  exact ⟨fun first => plain.1 (List.mem_of_head? first),
    fun first => plain.2 (List.mem_of_head? first)⟩

/-- What is not a character of a filter is no level of it. -/
theorem notMem_parts {c : Char} (ne : c ≠ '/') (absent : c ∉ filter.toList) :
    [c] ∉ parts filter := by
  intro here
  exact absent ((mem_parts_iff ne filter).1 ⟨_, here, List.mem_singleton_self c⟩)

/-- A filter without wildcards matches nothing but itself. -/
theorem filterMatches_iff_eq_of_plain (plain : Plain filter) :
    filterMatches filter topic = true ↔ topic = filter := by
  have no_one := notMem_parts (by decide) plain.1
  have no_rest := notMem_parts (by decide) plain.2
  rw [filterMatches, plain.not_startsWild, Bool.and_false, Bool.not_false, Bool.true_and,
    levels_eq_parts, levels_eq_parts, matchLevels_iff]
  constructor
  · rintro (⟨-, same, agree⟩ | ⟨before, after, cut, -⟩)
    · exact parts_inj.1 (agree.eq same no_one).symm
    · simp [cut] at no_rest
  · rintro rfl
    exact meets_self _

/-- Every topic matches itself. -/
theorem filterMatches_self (topic : String) : filterMatches topic topic = true := by
  rw [filterMatches, levels_eq_parts, matchLevels_iff.2 (meets_self _), Bool.and_true,
    Bool.not_eq_true', Bool.and_eq_false_imp, isSystem, decide_eq_true_eq, ← Bool.not_eq_true,
    startsWild_iff_head?]
  intro dollar
  simp [dollar]

end Filters

end VirtualNode.Topic
