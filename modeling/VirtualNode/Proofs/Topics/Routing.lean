import Mathlib.Data.List.DropRight
import VirtualNode.Mqtt.Client
import VirtualNode.Proofs.Topics.Filters

/-!
# Where messages go

The routes of a client are a matter of the changes that were made to them.  A filter is among them
if it has been set since it was last removed; it came with the first time that it was set since
then, and its handler is the one that it was given last (`tenure`).  A message goes to the handler
of the eldest filter that matches its topic.

`Reflects` says so of the table of routes; it holds after one more change (`Reflects.set`,
`Reflects.remove`), and so after any changes.  Main statement: `dispatched_to_eldest`.
-/

set_option autoImplicit false

namespace VirtualNode.Mqtt

open Topic (filterMatches Plain)

/-! ## Subscriptions -/

/-- A level of at most one character is the character that is in it. -/
theorem eq_singleton_of_mem {c : Char} {level : List Char} (short : level.length ≤ 1)
    (here : c ∈ level) : level = [c] := by
  obtain ⟨d, rfl⟩ := List.length_eq_one_iff.1 (Nat.le_antisymm short (List.length_pos_of_mem here))
  rw [List.mem_singleton.1 here]

/-- A level is well formed if a wildcard in it fills it. -/
theorem Request.isLevel_iff {level : List Char} : Request.isLevel level = true ↔
    ('+' ∈ level → level = ['+']) ∧ ('#' ∈ level → level = ['#']) := by
  rw [Request.isLevel, Bool.or_eq_true, decide_eq_true_eq]
  constructor
  · rintro (short | plain)
    · exact ⟨eq_singleton_of_mem short, eq_singleton_of_mem short⟩
    · simp only [Bool.not_eq_true', Bool.or_eq_false_iff, List.contains_eq_mem,
        decide_eq_false_iff_not] at plain
      exact ⟨fun here => absurd here plain.1, fun here => absurd here plain.2⟩
  · rintro ⟨one, rest⟩
    by_cases short : level.length ≤ 1
    · exact .inl short
    · right
      simp only [Bool.not_eq_true', Bool.or_eq_false_iff, List.contains_eq_mem,
        decide_eq_false_iff_not]
      exact ⟨fun here => short (by simp [one here]), fun here => short (by simp [rest here])⟩

/-- A client subscribes to the valid filters, but not to the empty one. -/
theorem Request.isFilter_iff {filter : String} :
    Request.isFilter filter = true ↔ filter ≠ "" ∧ Topic.Valid filter := by
  have dropped {level : List Char} (mem : level ∈ (Topic.parts filter).dropLast) :
      level ∈ Topic.parts filter := List.dropLast_subset _ mem
  simp only [Request.isFilter, Topic.levels_eq_parts, Bool.and_eq_true, List.all_eq_true,
    Bool.not_eq_true', List.contains_eq_mem, decide_eq_false_iff_not, and_assoc]
  refine and_congr (by simp) ?_
  constructor
  · rintro ⟨levels, last⟩
    refine ⟨fun level mem => (isLevel_iff.1 (levels level mem)).1,
      fun level mem => (isLevel_iff.1 (levels level mem)).2, fun mem => ?_⟩
    exact last _ mem (List.mem_singleton_self _)
  · intro valid
    refine ⟨fun level mem => isLevel_iff.2 ⟨valid.one level mem, valid.rest level mem⟩, ?_⟩
    intro level mem here
    rw [valid.rest level (dropped mem) here] at mem
    exact valid.last mem

/-! ## Changes -/

variable {η : Type}

/-- A change of the routes. -/
inductive Rerouting (η : Type) where
  | set (filter : String) (handler : η)
  | remove (filter : String)

namespace Rerouting

def filter : Rerouting η → String
  | set filter _ => filter
  | remove filter => filter

def handler? : Rerouting η → Option η
  | set _ handler => some handler
  | remove _ => none

def apply (r : Routes η) : Rerouting η → Routes η
  | set filter handler => r.set filter handler
  | remove filter => r.remove filter

end Rerouting

/-- The routes after some changes. -/
def Routes.follow (r : Routes η) (changes : List (Rerouting η)) : Routes η :=
  changes.foldl Rerouting.apply r

/-! ## Tenures -/

/-- The handlers that a filter has been given since it was last removed, each with the number of
changes before. -/
def tenure (filter : String) (changes : List (Rerouting η)) : List (η × Nat) :=
  ((changes.zipIdx.filter fun c => c.1.filter = filter).rtakeWhile
    fun c => c.1.handler?.isSome).filterMap fun c => c.1.handler?.map (·, c.2)

/-- When a filter came to be among the routes, as the number of changes before. -/
def since? (filter : String) (changes : List (Rerouting η)) : Option Nat :=
  (tenure filter changes).head?.map Prod.snd

/-- The handler that a filter was given last. -/
def latest? (filter : String) (changes : List (Rerouting η)) : Option η :=
  (tenure filter changes).getLast?.map Prod.fst

section Tenures

variable {filter other : String} {handler : η} {changes : List (Rerouting η)} {n : Nat}

/-- To set a filter adds to its tenure, and to no other. -/
theorem tenure_set : tenure other (changes ++ [.set filter handler]) =
    if filter = other then tenure other changes ++ [(handler, changes.length)]
    else tenure other changes := by
  unfold tenure
  rw [List.zipIdx_append, List.filter_append]
  by_cases here : filter = other
  · simp [here, Rerouting.filter, Rerouting.handler?]
  · simp [here, Rerouting.filter]

/-- To remove a filter ends its tenure, and no other. -/
theorem tenure_remove : tenure other (changes ++ [.remove filter]) =
    if filter = other then [] else tenure other changes := by
  unfold tenure
  rw [List.zipIdx_append, List.filter_append]
  by_cases here : filter = other
  · simp [here, Rerouting.filter, Rerouting.handler?]
  · simp [here, Rerouting.filter]

/-- A handler was given by one of the changes. -/
theorem lt_of_mem_tenure {given : η × Nat} (mem : given ∈ tenure filter changes) :
    given.2 < changes.length := by
  obtain ⟨c, kept, told⟩ := List.mem_filterMap.1 mem
  have own := (List.mem_filter.1 ((List.rtakeWhile_suffix _ _).subset kept)).1
  obtain ⟨handler, -, rfl⟩ := Option.map_eq_some_iff.1 told
  simpa using List.snd_lt_add_of_mem_zipIdx own

/-- A filter is there since one of the changes. -/
theorem lt_of_since? (came : since? filter changes = some n) : n < changes.length := by
  obtain ⟨given, first, rfl⟩ := Option.map_eq_some_iff.1 came
  exact lt_of_mem_tenure (List.mem_of_head? first)

/-- A filter is there since no time if it has no tenure. -/
theorem since?_eq_none_iff : since? filter changes = none ↔ tenure filter changes = [] := by
  rw [since?, Option.map_eq_none_iff, List.head?_eq_none_iff]

/-- A filter has no latest handler if it has no tenure. -/
theorem latest?_eq_none_iff : latest? filter changes = none ↔ tenure filter changes = [] := by
  rw [latest?, Option.map_eq_none_iff, List.getLast?_eq_none_iff]

/-- A filter that is set is there since before, or since now. -/
theorem since?_set : since? other (changes ++ [.set filter handler]) =
    if filter = other then (since? other changes).or (some changes.length)
    else since? other changes := by
  unfold since?
  rw [tenure_set]
  split
  · cases tenure other changes with
    | nil => rfl
    | cons given later => rfl
  · rfl

/-- A filter that is removed is not there. -/
theorem since?_remove : since? other (changes ++ [.remove filter]) =
    if filter = other then none else since? other changes := by
  unfold since?
  rw [tenure_remove]
  split
  · rfl
  · rfl

/-- A filter that is set has the handler that it is given. -/
theorem latest?_set : latest? other (changes ++ [.set filter handler]) =
    if filter = other then some handler else latest? other changes := by
  unfold latest?
  rw [tenure_set]
  split
  · rw [List.getLast?_concat, Option.map_some]
  · rfl

/-- A filter that is removed has no handler. -/
theorem latest?_remove : latest? other (changes ++ [.remove filter]) =
    if filter = other then none else latest? other changes := by
  unfold latest?
  rw [tenure_remove]
  split
  · rfl
  · rfl

end Tenures

/-! ## The table -/

/-- A filter came before another one, if both are among the routes. -/
def Before (changes : List (Rerouting η)) (filter other : String) : Prop :=
  ∀ n m, since? filter changes = some n → since? other changes = some m → n < m

/-- A table of routes has what some changes have made: the filters that are among the routes in the
order in which they came, each with the handler that it was given last. -/
structure Reflects (changes : List (Rerouting η)) (r : Routes η) : Prop where
  latest : ∀ filter, r.table.get? filter = latest? filter changes
  ordered : r.table.keys.Pairwise (Before changes)

section Table

variable {changes : List (Rerouting η)} {r : Routes η} {filter other topic : String}

/-- The filters in the routes are those that are there since some change. -/
theorem Reflects.mem_keys_iff (reflects : Reflects changes r) :
    filter ∈ r.table.keys ↔ ∃ n, since? filter changes = some n := by
  rw [Table.mem_keys_iff, reflects.latest, ne_eq, latest?_eq_none_iff, ← since?_eq_none_iff,
    ← ne_eq, Option.ne_none_iff_exists']

/-- Without changes there are no routes. -/
theorem reflects_empty : Reflects ([] : List (Rerouting η)) Routes.empty where
  latest _ := rfl
  ordered := .nil

/-- Routes in which a filter is set reflect that change. -/
theorem Reflects.set (reflects : Reflects changes r) (filter : String) (handler : η) :
    Reflects (changes ++ [.set filter handler]) (r.set filter handler) := by
  constructor
  · intro other
    rw [latest?_set, Routes.set, Table.get?_insert, reflects.latest]
  · have same {other : String} (present : other ∈ r.table.keys) :
        since? other (changes ++ [.set filter handler]) = since? other changes := by
      obtain ⟨n, came⟩ := reflects.mem_keys_iff.1 present
      rw [since?_set, came]
      split
      · rfl
      · rfl
    have kept : r.table.keys.Pairwise (Before (changes ++ [.set filter handler])) := by
      refine reflects.ordered.imp_of_mem fun here there before => ?_
      rw [Before, same here, same there]
      exact before
    rw [Routes.set, Table.keys_insert]
    split
    · exact kept
    · rename_i absent
      rw [List.pairwise_append]
      refine ⟨kept, List.pairwise_singleton _ _, ?_⟩
      intro other here last is_last n m came
      rw [List.mem_singleton.1 is_last, since?_set, if_pos rfl]
      have unknown : since? filter changes = none := by
        rw [Option.eq_none_iff_forall_ne_some]
        exact fun n came => absent (reflects.mem_keys_iff.2 ⟨n, came⟩)
      rw [unknown, Option.none_or, Option.some_inj]
      rintro rfl
      rw [same here] at came
      exact lt_of_since? came

/-- Routes from which a filter is removed reflect that change. -/
theorem Reflects.remove (reflects : Reflects changes r) (filter : String) :
    Reflects (changes ++ [.remove filter]) (r.remove filter) := by
  constructor
  · intro other
    rw [latest?_remove, Routes.remove, Table.get?_erase, reflects.latest]
  · rw [Routes.remove, Table.keys_erase]
    refine (reflects.ordered.filter _).imp_of_mem fun here there before => ?_
    have left := of_decide_eq_true (List.mem_filter.1 here).2
    have right := of_decide_eq_true (List.mem_filter.1 there).2
    rw [Before, since?_remove, since?_remove, if_neg left.symm, if_neg right.symm]
    exact before

/-- After any changes the routes reflect them. -/
theorem reflects_follow (changes : List (Rerouting η)) :
    Reflects changes (Routes.empty.follow changes) := by
  induction changes using List.reverseRecOn with
  | nil => exact reflects_empty
  | append_singleton changes c ih =>
    rw [Routes.follow, List.foldl_append]
    cases c with
    | set filter handler => exact ih.set filter handler
    | remove filter => exact ih.remove filter

/-! ## Dispatch -/

/-- Of the filters that match a topic, the one that has been among the routes for the longest
time. -/
def Eldest (changes : List (Rerouting η)) (topic filter : String) : Prop :=
  ∃ n, since? filter changes = some n ∧ filterMatches filter topic = true ∧
    ∀ other m, since? other changes = some m → filterMatches other topic = true →
      other ≠ filter → n < m

/-- No filter among the routes matches a topic. -/
def NoneMatches (changes : List (Rerouting η)) (topic : String) : Prop :=
  ∀ filter n, since? filter changes = some n → filterMatches filter topic = false

/-- There is only one eldest filter that matches. -/
theorem Eldest.unique (eldest : Eldest changes topic filter)
    (eldest' : Eldest changes topic other) : filter = other := by
  obtain ⟨n, came, here, first⟩ := eldest
  obtain ⟨m, came', here', first'⟩ := eldest'
  by_contra differ
  have before := first other m came' here' (Ne.symm differ)
  have after := first' filter n came here differ
  omega

/-- No handler is found just if no filter matches. -/
theorem Reflects.handler?_eq_none_iff (reflects : Reflects changes r) :
    r.handler? topic = none ↔ NoneMatches changes topic := by
  rw [Routes.handler?, Option.map_eq_none_iff, List.find?_eq_none]
  constructor
  · intro unmatched filter n came
    obtain ⟨e, here, rfl⟩ := List.mem_map.1 (reflects.mem_keys_iff.2 ⟨n, came⟩)
    rw [← Bool.not_eq_true]
    exact unmatched e here
  · intro unmatched e here
    obtain ⟨n, came⟩ := reflects.mem_keys_iff.1 (List.mem_map_of_mem here)
    rw [unmatched e.1 n came]
    exact Bool.false_ne_true

/-- A handler that is found is the latest one of the eldest filter that matches. -/
theorem Reflects.eldest (reflects : Reflects changes r) {handler : η}
    (found : r.handler? topic = some handler) :
    ∃ filter, Eldest changes topic filter ∧ latest? filter changes = some handler := by
  obtain ⟨⟨filter, _⟩, first, rfl⟩ := Option.map_eq_some_iff.1 found
  obtain ⟨here, early, late, cut, unmatched⟩ := List.find?_eq_some_iff_append.1 first
  have keys : r.table.keys = early.map Prod.fst ++ filter :: late.map Prod.fst := by
    rw [Table.keys, cut, List.map_append, List.map_cons]
  obtain ⟨n, came⟩ := reflects.mem_keys_iff.1 (keys ▸ List.mem_append_cons_self)
  refine ⟨filter, ⟨n, came, here, ?_⟩, ?_⟩
  · intro other m came' here' differ
    have ordered := reflects.ordered
    have among := reflects.mem_keys_iff.2 ⟨m, came'⟩
    rw [keys] at ordered among
    rcases List.mem_append.1 among with sooner | later
    · obtain ⟨e, mem, rfl⟩ := List.mem_map.1 sooner
      simpa [here'] using unmatched e mem
    · have later := List.mem_of_ne_of_mem differ later
      have after := (List.pairwise_append.1 ordered).2.1
      exact (List.pairwise_cons.1 after).1 other later n m came came'
  · rw [← reflects.latest, Table.get?_eq_some_iff, cut]
    exact List.mem_append_cons_self

/-- The handler that is found is the latest one of the eldest filter that matches. -/
theorem Reflects.handler?_eq_some_iff (reflects : Reflects changes r) {handler : η} :
    r.handler? topic = some handler ↔
      ∃ filter, Eldest changes topic filter ∧ latest? filter changes = some handler := by
  constructor
  · exact reflects.eldest
  · rintro ⟨filter, eldest, latest⟩
    cases found : r.handler? topic with
    | none =>
      obtain ⟨n, came, here, -⟩ := eldest
      rw [reflects.handler?_eq_none_iff.1 found filter n came] at here
      cases here
    | some given =>
      obtain ⟨other, eldest', latest'⟩ := reflects.eldest found
      obtain rfl := eldest.unique eldest'
      exact latest'.symm.trans latest

/-- A message goes to the latest handler of the eldest filter that matches, or to the fallback. -/
theorem Reflects.dispatch_eq_iff (reflects : Reflects changes r) {fallback handler : η} :
    r.dispatch fallback topic = handler ↔
      (∃ filter, Eldest changes topic filter ∧ latest? filter changes = some handler) ∨
        (NoneMatches changes topic ∧ fallback = handler) := by
  rw [← reflects.handler?_eq_some_iff, ← reflects.handler?_eq_none_iff, Routes.dispatch]
  cases r.handler? topic with
  | none => simp
  | some given => simp

/-- If only filters without wildcards match a topic then that is the topic itself. -/
theorem Reflects.handler?_of_plain (reflects : Reflects changes r)
    (plain : ∀ filter n, since? filter changes = some n → filterMatches filter topic = true →
      Plain filter) : r.handler? topic = latest? topic changes := by
  cases found : r.handler? topic with
  | none =>
    have absent : since? topic changes = none := by
      rw [Option.eq_none_iff_forall_ne_some]
      intro n came
      have own := reflects.handler?_eq_none_iff.1 found topic n came
      rw [Topic.filterMatches_self] at own
      cases own
    rw [latest?_eq_none_iff.2 (since?_eq_none_iff.1 absent)]
  | some given =>
    obtain ⟨filter, ⟨n, came, here, -⟩, latest⟩ := reflects.eldest found
    obtain rfl := (Topic.filterMatches_iff_eq_of_plain (plain filter n came here)).1 here
    exact latest.symm

end Table

/-- No filter is twice among the routes, and they are what the changes have made.  A message goes to
the handler that was given last to the eldest filter that matches its topic, and to `fallback` if no
filter matches it.  If only filters without wildcards match then it goes to the handler that was
given last to its topic. -/
theorem dispatched_to_eldest (changes : List (Rerouting η)) :
    (Routes.empty.follow changes).table.keys.Nodup ∧
      Reflects changes (Routes.empty.follow changes) ∧
      (∀ fallback topic handler, (Routes.empty.follow changes).dispatch fallback topic = handler ↔
        (∃ filter, Eldest changes topic filter ∧ latest? filter changes = some handler) ∨
          (NoneMatches changes topic ∧ fallback = handler)) ∧
      ∀ fallback topic,
        (∀ filter n, since? filter changes = some n → filterMatches filter topic = true →
          Plain filter) →
        (Routes.empty.follow changes).dispatch fallback topic =
          (latest? topic changes).getD fallback := by
  have reflects := reflects_follow changes
  refine ⟨(Routes.empty.follow changes).table.nodup, reflects, ?_, ?_⟩
  · intro fallback topic handler
    exact reflects.dispatch_eq_iff
  · intro fallback topic plain
    rw [Routes.dispatch, reflects.handler?_of_plain plain]

/-- A filter that is set again keeps its place, and one that was removed comes last. -/
def overlapping : List (Rerouting Nat) :=
  [.set "a/b" 1, .set "a/+" 2, .set "c" 3, .set "a/+" 4, .remove "a/b", .set "a/b" 5, .set "c" 6]

/-- Three filters are left after the changes. -/
theorem mem_of_since?_overlapping {filter : String} {n : Nat}
    (came : since? filter overlapping = some n) :
    filter = "a/+" ∨ filter = "c" ∨ filter = "a/b" := by
  have keys : (Routes.empty.follow overlapping).table.keys = ["a/+", "c", "a/b"] := by decide
  have among := (reflects_follow overlapping).mem_keys_iff.2 ⟨n, came⟩
  simpa [keys] using among

/-- Of two filters that match the eldest one counts, and of its handlers the latest. -/
theorem dispatched_to_eldest_overlapping :
    (Eldest overlapping "a/b" "a/+" ∧ (Routes.empty.follow overlapping).dispatch 0 "a/b" = 4) ∧
      (∀ filter n, since? filter overlapping = some n → filterMatches filter "c" = true →
        Plain filter) ∧ (Routes.empty.follow overlapping).dispatch 0 "c" = 6 := by
  have eldest : Eldest overlapping "a/b" "a/+" := by
    refine ⟨1, by decide, by decide, fun other m came here differ => ?_⟩
    rcases mem_of_since?_overlapping came with rfl | rfl | rfl
    · exact absurd rfl differ
    · exact absurd here (by decide)
    · obtain rfl : 5 = m := Option.some_inj.1 (came.symm.trans (by decide)).symm
      decide
  have plain : ∀ filter n, since? filter overlapping = some n →
      filterMatches filter "c" = true → Plain filter := by
    intro filter n came here
    rcases mem_of_since?_overlapping came with rfl | rfl | rfl
    · exact absurd here (by decide)
    · decide
    · exact absurd here (by decide)
  obtain ⟨-, -, dispatched, plainly⟩ := dispatched_to_eldest overlapping
  refine ⟨⟨eldest, (dispatched 0 "a/b" 4).2 (.inl ⟨_, eldest, by decide⟩)⟩, plain, ?_⟩
  rw [plainly 0 "c" plain]
  decide

end VirtualNode.Mqtt
