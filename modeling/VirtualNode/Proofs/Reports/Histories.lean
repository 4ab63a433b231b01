import Mathlib.Data.Finset.Card
import Mathlib.Data.List.DropRight
import VirtualNode.Biz.Sightings

/-!
# The history of sightings

What is known of a module is a matter of the reports about it since it was last forgotten.  The last
of them is the report that is kept.  It ends an unbroken run of reports that agree on the state, and
the first report of that run gave the sighting its time.

Main definitions: `reportsOf` reads the reports about a module off a list of updates, `unbroken`
takes the run at their end, and `sighting?` is the sighting that they make.  `Sightings.observe_end`
is what one more report adds to it, `Sightings.get?_follow` carries that along a list of updates.
Main statement: `Sightings.history_recalled`.
-/

set_option autoImplicit false

namespace VirtualNode.Biz

/-! ## Updates -/

/-- An update of what is known of a module. -/
inductive Update where
  | report (report : Report) (now : Time.Stamp)
  | forget (identity : String)
  deriving DecidableEq, Repr

namespace Update

/-- The identity of the module that an update is about. -/
def identity : Update → String
  | report r _ => r.identity
  | forget identity => identity

/-- What is known after an update. -/
def apply (s : Sightings) : Update → Sightings
  | report r now => (s.apply r now).1
  | forget identity => s.remove identity

/-- The report of an update and the time at which it came. -/
def report? : Update → Option (Report × Time.Stamp)
  | report r now => some (r, now)
  | forget _ => none

end Update

/-- What is known after some updates. -/
def Sightings.follow (s : Sightings) (updates : List Update) : Sightings :=
  updates.foldl Update.apply s

/-- To follow some updates and then others is to follow them all. -/
theorem Sightings.follow_append (s : Sightings) (earlier later : List Update) :
    s.follow (earlier ++ later) = (s.follow earlier).follow later :=
  List.foldl_append

/-- The state in which a module was last seen. -/
def Sightings.stateOf (s : Sightings) (identity : String) : Option State :=
  (s.get? identity).map fun seen => seen.report.state

/-! ## One report -/

namespace Sightings

variable (s : Sightings) (report : Report) (now : Time.Stamp)

/-- A report changes nothing exactly if it has the state in which the module was last seen; else it
names that state. -/
theorem apply_answer : (s.apply report now).2 =
    if s.stateOf report.identity = some report.state then .unchanged
    else .changed (s.stateOf report.identity) := by
  show (observe (s.get? report.identity) report now).2 = _
  unfold stateOf
  cases s.get? report.identity with
  | none => rfl
  | some seen => by_cases same : seen.report.state = report.state <;> simp [observe, same]

/-- After a report about a module it is the one that is known, and other modules stay. -/
theorem report_apply (identity : String) :
    ((s.apply report now).1.get? identity).map Sighting.report =
      if report.identity = identity then some report
      else (s.get? identity).map Sighting.report := by
  have kept : (observe (s.get? report.identity) report now).1.report = report := by
    unfold observe
    split
    · rfl
    · split
      · rfl
      · rfl
  rw [get?_apply]
  by_cases here : report.identity = identity
  · rw [if_pos here, if_pos here, Option.map_some, kept]
  · rw [if_neg here, if_neg here]

/-- After a report about a module it is in the state reported, and other modules stay. -/
theorem stateOf_apply (identity : String) :
    (s.apply report now).1.stateOf identity =
      if report.identity = identity then some report.state else s.stateOf identity := by
  have kept := congrArg (Option.map Report.state) (report_apply s report now identity)
  rw [Option.map_map, apply_ite (Option.map Report.state), Option.map_map] at kept
  exact kept

end Sightings

/-! ## The reports about a module -/

/-- The updates that are about a module, in their order. -/
def about (identity : String) (updates : List Update) : List Update :=
  updates.filter fun u => u.identity = identity

/-- The reports about a module since it was last forgotten, with their times. -/
def reportsOf (identity : String) (updates : List Update) : List (Report × Time.Stamp) :=
  ((about identity updates).rtakeWhile fun u => u.report?.isSome).filterMap Update.report?

/-- The state that the last of some reports has. -/
def lastState (reports : List (Report × Time.Stamp)) : Option State :=
  reports.getLast?.map fun r => r.1.state

/-- The last of some reports, as far back as they agree on the state. -/
def unbroken (reports : List (Report × Time.Stamp)) : List (Report × Time.Stamp) :=
  reports.rtakeWhile fun r => lastState reports = some r.1.state

/-- The sighting that some reports make: the last of them, and the time of the first one in the
unbroken run that it ends. -/
def sighting? (reports : List (Report × Time.Stamp)) : Option Sighting :=
  match reports.getLast?, (unbroken reports).head? with
  | some last, some first => some ⟨last.1, first.2⟩
  | _, _ => none

/-- One more update is about a module if it has its identity. -/
theorem about_concat (identity : String) (updates : List Update) (u : Update) :
    about identity (updates ++ [u]) =
      about identity updates ++ if u.identity = identity then [u] else [] := by
  by_cases here : u.identity = identity <;> simp [about, here]

/-- One more report is added to those of its module, and a removal ends them. -/
theorem reportsOf_concat (identity : String) (updates : List Update) (u : Update) :
    reportsOf identity (updates ++ [u]) =
      if u.identity = identity then
        match u.report? with
        | some r => reportsOf identity updates ++ [r]
        | none => []
      else reportsOf identity updates := by
  unfold reportsOf
  rw [about_concat]
  by_cases here : u.identity = identity
  · rw [if_pos here, if_pos here, List.rtakeWhile_concat]
    cases known : u.report? with
    | none => simp
    | some r => simp [known]
  · rw [if_neg here, if_neg here, List.append_nil]

/-- One more report goes on with the run that the others end with, or begins a run of its own. -/
theorem unbroken_concat (reports : List (Report × Time.Stamp)) (r : Report × Time.Stamp) :
    unbroken (reports ++ [r]) =
      (if lastState reports = some r.1.state then unbroken reports else []) ++ [r] := by
  have last : lastState (reports ++ [r]) = some r.1.state := by simp [lastState]
  unfold unbroken
  rw [last, List.rtakeWhile_concat_pos _ _ _ (by simp)]
  congr 1
  by_cases same : lastState reports = some r.1.state
  · rw [if_pos same, same]
  · rw [if_neg same, List.rtakeWhile_eq_nil_iff]
    intro some_report
    unfold lastState at same
    rw [List.getLast?_eq_some_getLast some_report] at same
    simpa [eq_comm] using same

/-- With a report there is an unbroken stretch of its state. -/
theorem unbroken_ne_nil {reports : List (Report × Time.Stamp)} (some_report : reports ≠ []) :
    unbroken reports ≠ [] := by
  obtain ⟨earlier, last, rfl⟩ := (List.eq_nil_or_concat' reports).resolve_left some_report
  simp [unbroken_concat]

/-- With reports there is a sighting: the last report, since the first of its unbroken stretch. -/
theorem sighting?_of_ne_nil {reports : List (Report × Time.Stamp)} (some_report : reports ≠ []) :
    ∃ last first, reports.getLast? = some last ∧ (unbroken reports).head? = some first ∧
      sighting? reports = some ⟨last.1, first.2⟩ := by
  have last := List.getLast?_eq_some_getLast some_report
  have first := List.head?_eq_some_head (unbroken_ne_nil some_report)
  exact ⟨_, _, last, first, by rw [sighting?, last, first]⟩

/-- Without reports, and only then, there is no sighting. -/
theorem sighting?_eq_none_iff (reports : List (Report × Time.Stamp)) :
    sighting? reports = none ↔ reports = [] := by
  refine ⟨fun unseen => ?_, fun nobody => nobody ▸ rfl⟩
  by_contra some_report
  obtain ⟨last, first, -, -, seen⟩ := sighting?_of_ne_nil some_report
  rw [seen] at unseen
  cases unseen

/-- The state of the sighting is the one that was reported last. -/
theorem state_sighting? (reports : List (Report × Time.Stamp)) :
    (sighting? reports).map (fun seen => seen.report.state) = lastState reports := by
  by_cases nobody : reports = []
  · subst nobody
    rfl
  · obtain ⟨last, first, ends, -, seen⟩ := sighting?_of_ne_nil nobody
    rw [seen, lastState, ends]
    rfl

namespace Sightings

/-- What one more report makes of the sighting that the earlier ones made. -/
theorem observe_end (reports : List (Report × Time.Stamp)) (report : Report) (now : Time.Stamp) :
    sighting? (reports ++ [(report, now)]) = some (observe (sighting? reports) report now).1 := by
  have run := unbroken_concat reports (report, now)
  unfold sighting?
  rw [List.getLast?_concat, run]
  by_cases nobody : reports = []
  · subst nobody
    rfl
  · obtain ⟨last, first, ends, begins, -⟩ := sighting?_of_ne_nil nobody
    rw [lastState, ends, begins]
    by_cases same : last.1.state = report.state
    · -- the run goes on, and its first report is the one that it had
      simp [same, begins, observe]
    · simp [same, observe]

/-- What is known of a module is the sighting that the reports about it make. -/
theorem get?_follow (updates : List Update) (identity : String) :
    (empty.follow updates).get? identity = sighting? (reportsOf identity updates) := by
  -- from the last update backwards, as the history is read
  induction updates using List.reverseRecOn with
  | nil => rfl
  | append_singleton updates u ih =>
    have last : empty.follow (updates ++ [u]) = u.apply (empty.follow updates) :=
      follow_append empty updates [u]
    rw [last, reportsOf_concat]
    cases u with
    | report r now =>
      rw [Update.apply, get?_apply]
      by_cases here : r.identity = identity
      · subst here
        simp only [Update.identity, Update.report?, if_true, observe_end, ih]
      · simp only [Update.identity, here, if_false, ih]
    | forget forgotten =>
      rw [Update.apply, get?_remove]
      by_cases here : forgotten = identity
      · simp only [Update.identity, Update.report?, here, if_true]
        rfl
      · simp only [Update.identity, here, if_false, ih]

/-- The state of a module is the one that was reported last. -/
theorem stateOf_follow (updates : List Update) (identity : String) :
    (empty.follow updates).stateOf identity = lastState (reportsOf identity updates) := by
  rw [stateOf, get?_follow, state_sighting?]

/-! ## The history -/

/-- The modules of which something is known, as a set. -/
def known (s : Sightings) : Finset String := ⟨s.table.keys, s.table.nodup⟩

/-- As many modules are known as there are entries. -/
theorem card_known (s : Sightings) : s.known.card = s.size :=
  List.length_map _

/-- The modules that are known are those that are found. -/
theorem mem_known_iff (s : Sightings) (identity : String) :
    identity ∈ s.known ↔ s.get? identity ≠ none :=
  s.table.mem_keys_iff identity

/-- The modules that are known are those with reports since their removal. -/
theorem mem_known_follow_iff (updates : List Update) (identity : String) :
    identity ∈ (empty.follow updates).known ↔ reportsOf identity updates ≠ [] := by
  rw [mem_known_iff, get?_follow, ne_eq, sighting?_eq_none_iff]

/-- What is known after some updates in terms of these updates. -/
structure Recalls (updates : List Update) (s : Sightings) : Prop where
  record : ∀ identity, s.get? identity = sighting? (reportsOf identity updates)
  /-- A report goes on with the run that the reports about its module end with, or is told as a
  change from the state of that run. -/
  answer : ∀ report now, (s.apply report now).2 =
    if lastState (reportsOf report.identity updates) = some report.state then .unchanged
    else .changed (lastState (reportsOf report.identity updates))
  size : ∃ present : Finset String, present.card = s.size ∧
    ∀ identity, identity ∈ present ↔ reportsOf identity updates ≠ []

/-- After any updates the sightings recall their history. -/
theorem recalls_follow (updates : List Update) : Recalls updates (empty.follow updates) where
  record := get?_follow updates
  answer report now := by rw [apply_answer, stateOf_follow]
  size := ⟨_, card_known _, mem_known_follow_iff updates⟩

/-- What is found of a module depends on the updates about it alone. -/
theorem get?_follow_congr {updates others : List Update} {identity : String}
    (same : about identity others = about identity updates) :
    (empty.follow others).get? identity = (empty.follow updates).get? identity := by
  rw [get?_follow, get?_follow, reportsOf, same, reportsOf]

/-- Which modules are known depends on the updates about each alone. -/
theorem known_follow_congr {updates others : List Update}
    (same : ∀ identity, about identity others = about identity updates) :
    (empty.follow others).known = (empty.follow updates).known := by
  ext identity
  rw [mem_known_iff, mem_known_iff, get?_follow_congr (same identity)]

/-- What is known after some updates is told by their history.  What is known of one module is a
matter of the updates about it, and so any order of updates that keeps the order of those about
the same module leaves the same sightings. -/
theorem history_recalled (updates : List Update) :
    Recalls updates (empty.follow updates) ∧
      ∀ others : List Update,
        (∀ identity, about identity others = about identity updates →
          (empty.follow others).get? identity = (empty.follow updates).get? identity) ∧
        ((∀ identity, about identity others = about identity updates) →
          (∀ identity, (empty.follow others).get? identity =
            (empty.follow updates).get? identity) ∧
          (empty.follow others).size = (empty.follow updates).size) := by
  refine ⟨recalls_follow updates, fun others => ⟨fun _ => get?_follow_congr, fun same => ?_⟩⟩
  refine ⟨fun identity => get?_follow_congr (same identity), ?_⟩
  rw [← card_known, ← card_known, known_follow_congr same]

/-- A module that is reported twice in one state with new details, while another one comes and
goes. -/
theorem history_recalled_interleaved :
    let first : Report := ⟨"a", "1", .activated, "", ""⟩
    let second : Report := ⟨"a", "1", .activated, "Main", ""⟩
    let other : Report := ⟨"b", "1", .resolved, "", ""⟩
    let updates := [.report first ⟨5, 0⟩, .report other ⟨6, 0⟩, .report second ⟨7, 0⟩,
      .forget "b:1"]
    let others := [.report other ⟨6, 0⟩, .report first ⟨5, 0⟩, .forget "b:1",
      .report second ⟨7, 0⟩]
    (∀ identity, about identity others = about identity updates) ∧
      (empty.follow others).get? "a:1" = some ⟨second, ⟨5, 0⟩⟩ ∧
      (empty.follow others).get? "b:1" = none ∧
      (empty.follow others).size = (empty.follow updates).size := by
  intro first second other updates others
  have same : ∀ identity, about identity others = about identity updates := by
    intro identity
    have names : first.identity = "a:1" ∧ second.identity = "a:1" ∧ other.identity = "b:1" := by
      decide
    by_cases a : "a:1" = identity
    · subst a
      simp [about, updates, others, Update.identity, names]
    · by_cases b : "b:1" = identity <;> simp [about, updates, others, Update.identity, names, a, b]
  obtain ⟨told, kept⟩ := history_recalled updates
  obtain ⟨records, size⟩ := (kept others).2 same
  refine ⟨same, ?_, ?_, size⟩
  · rw [records, told.record]
    decide
  · rw [records, told.record]
    decide

end Sightings

end VirtualNode.Biz
