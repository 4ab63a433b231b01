import Mathlib.Data.List.Infix
import VirtualNode.Controller.Inbox
import VirtualNode.Proofs.Reports.Histories
import VirtualNode.Proofs.Wire.Presentations

/-!
# Messages of reports are accounted for

A message that cannot be read leaves no trace but in the count of such messages and in the journal.
A message that can be read is taken in as a whole: its reports are applied in their order, and each
of them that finds its module in another state than the one it tells is counted and written into
the journal.  What finds the module in another state is said in terms of the reports before it
(`Sightings.changes`), so that a module which occurs several times in a message is told of every
time that it changes.

Main definitions: `Chained` says of the changes of one module that each begins where the one before
it ended, and `Inbox.readAll` takes in letter after letter.  `Inbox.takeReports_eq` says all that a
list of reports does.  Main statement: `Inbox.reports_accounted`.
-/

set_option autoImplicit false

namespace VirtualNode

namespace Biz

/-! ## Changes of state -/

/-- The last of some reports about a module. -/
def lastAbout (reports : List Report) (identity : String) : Option Report :=
  (reports.filter fun r => r.identity = identity).getLast?

/-- The last report about a module is among the later ones, or it is the first. -/
theorem lastAbout_cons_or (r : Report) (reports : List Report) (identity : String)
    (earlier : Option Report) :
    (lastAbout (r :: reports) identity).or earlier =
      (lastAbout reports identity).or (if r.identity = identity then some r else earlier) := by
  unfold lastAbout
  by_cases here : r.identity = identity
  · rw [if_pos here, List.filter_cons_of_pos (by simpa using here), List.getLast?_cons]
    cases (reports.filter fun r => r.identity = identity).getLast? <;> rfl
  · rw [if_neg here, List.filter_cons_of_neg (by simpa using here)]

namespace Sightings

/-- The report about a module that is kept after some reports. -/
def reportAfter (s : Sightings) (reports : List Report) (identity : String) : Option Report :=
  (lastAbout reports identity).or ((s.get? identity).map Sighting.report)

/-- The state in which a module is known to be after some reports. -/
def stateAfter (s : Sightings) (reports : List Report) (identity : String) : Option State :=
  (s.reportAfter reports identity).map Report.state

/-- What a report changes after earlier ones: the state in which it finds its module, if that is
another one than it tells. -/
def change? (s : Sightings) (earlier : List Report) (r : Report) :
    Option (Option State × Report) :=
  if s.stateAfter earlier r.identity = some r.state then none
  else some (s.stateAfter earlier r.identity, r)

/-- The changes that some reports bring. -/
def changes (s : Sightings) (reports : List Report) : List (Option State × Report) :=
  (reports.inits.zip reports).filterMap fun pair => s.change? pair.1 pair.2

variable (s : Sightings) (r : Report) (reports : List Report) (now : Time.Stamp)

/-- After the first report the others go on from there. -/
theorem reportAfter_cons (identity : String) :
    s.reportAfter (r :: reports) identity = (s.apply r now).1.reportAfter reports identity := by
  rw [reportAfter, lastAbout_cons_or, reportAfter, report_apply]

/-- Without reports a module is in the state in which it was. -/
theorem stateAfter_nil (identity : String) : s.stateAfter [] identity = s.stateOf identity :=
  Option.map_map _ _ _

/-- After the first report the states go on from there. -/
theorem stateAfter_cons (identity : String) :
    s.stateAfter (r :: reports) identity = (s.apply r now).1.stateAfter reports identity := by
  rw [stateAfter, s.reportAfter_cons r reports now, stateAfter]

/-- After the first report the changes go on from there. -/
theorem change?_cons (earlier : List Report) (r' : Report) :
    s.change? (r :: earlier) r' = (s.apply r now).1.change? earlier r' := by
  unfold change?
  rw [s.stateAfter_cons r earlier now]

/-- The changes are the one of the first report, if it is one, and those of the others. -/
theorem changes_cons : s.changes (r :: reports) =
    (s.change? [] r).toList ++ (s.apply r now).1.changes reports := by
  unfold changes
  rw [List.inits_cons, List.zip_cons_cons, List.filterMap_cons, List.zip_map_left,
    List.filterMap_map]
  have later : ((fun pair => s.change? pair.1 pair.2) ∘ Prod.map (fun earlier => r :: earlier) id) =
      fun pair => (s.apply r now).1.change? pair.1 pair.2 := by
    funext pair
    exact change?_cons s r now pair.1 pair.2
  rw [later]
  cases s.change? [] r <;> rfl

/-- A report of the same state is no change. -/
theorem change?_nil_of_same (same : s.stateOf r.identity = some r.state) :
    s.change? [] r = none := by
  rw [change?, stateAfter_nil, if_pos same]

/-- A report of another state is a change. -/
theorem change?_nil_of_ne (other : s.stateOf r.identity ≠ some r.state) :
    s.change? [] r = some (s.stateOf r.identity, r) := by
  rw [change?, stateAfter_nil, if_neg other]

-- A module that is told of three times, the last time in the state that it has by then.
example : empty.changes [⟨"a", "1", .resolved, "", ""⟩, ⟨"a", "1", .activated, "", ""⟩,
      ⟨"a", "1", .activated, "Main", ""⟩] =
    [(none, ⟨"a", "1", .resolved, "", ""⟩), (some .resolved, ⟨"a", "1", .activated, "", ""⟩)] := by
  decide

end Sightings

end Biz

namespace Controller

open Biz (Report Sightings State Update)
open Json (ReadError)

/-! ## Chains -/

/-- The event that tells of a change of state. -/
def changeEvent (change : Option State × Report) : Watch.Event :=
  .stateChanged change.2.identity (change.1.map State.text) change.2.state.text

/-- What an entry tells of a module: the state before a change, and the one after it. -/
def changeTold? (identity : String) (entry : Watch.Entry) : Option (Option String × String) :=
  match entry.event with
  | .stateChanged biz previous state => if biz = identity then some (previous, state) else none
  | _ => none

/-- Changes of which each begins where the one before it ended. -/
def Chained : Option String → List (Option String × String) → Option String → Prop
  | start, [], stop => start = stop
  | start, (previous, state) :: more, stop => previous = start ∧ Chained (some state) more stop

/-- Changes may go on where others have stopped. -/
theorem Chained.append {start middle stop : Option String}
    {changes more : List (Option String × String)} (first : Chained start changes middle)
    (second : Chained middle more stop) : Chained start (changes ++ more) stop := by
  induction changes generalizing start with
  | nil =>
    obtain rfl : start = middle := first
    exact second
  | cons change changes ih => exact ⟨first.1, ih first.2⟩

/-- The text of the state in which a module was last seen. -/
def stateText (s : Sightings) (identity : String) : Option String :=
  (s.stateOf identity).map State.text

/-- The entries that a list of reports leaves in the journal. -/
def told (s : Sightings) (clock : Nat) (reports : List Report) : List Watch.Entry :=
  (s.changes reports).map fun change => ⟨clock, changeEvent change⟩

/-- Reports that all come at one time, as updates. -/
def updatesOf (now : Time.Stamp) (reports : List Report) : List Update :=
  reports.map fun r => .report r now

section Follow

variable (s : Sightings) (now : Time.Stamp) (reports : List Report) (identity : String)

/-- To follow the reports is to apply the first one and to follow the others. -/
theorem updatesOf_cons (r : Report) :
    s.follow (updatesOf now (r :: reports)) = (s.apply r now).1.follow (updatesOf now reports) :=
  rfl

/-- What is known of a module after the reports is the last report about it. -/
theorem report_follow :
    ((s.follow (updatesOf now reports)).get? identity).map Biz.Sighting.report =
      s.reportAfter reports identity := by
  induction reports generalizing s with
  | nil => rfl
  | cons r reports ih => rw [updatesOf_cons, ih, s.reportAfter_cons r reports now]

/-- The state of a module after the reports is that of the last report about it. -/
theorem stateOf_follow :
    (s.follow (updatesOf now reports)).stateOf identity = s.stateAfter reports identity := by
  rw [Sightings.stateAfter, ← report_follow s now, Option.map_map]
  rfl

/-- A report is a change exactly if it is answered as one when it is applied. -/
theorem change?_isSome_iff (r : Report) :
    (s.change? reports r).isSome ↔
      ((s.follow (updatesOf now reports)).apply r now).2 ≠ .unchanged := by
  rw [Sightings.apply_answer, stateOf_follow, Sightings.change?]
  by_cases same : s.stateAfter reports r.identity = some r.state <;> simp [same]

/-- The reports that are answered as changes, one applied after the other. -/
def answeredAsChanges : Nat :=
  (reports.inits.zip reports).countP fun pair =>
    ((s.follow (updatesOf now pair.1)).apply pair.2 now).2 ≠ .unchanged

/-- There are as many changes as reports were answered with one. -/
theorem length_changes : (s.changes reports).length = answeredAsChanges s now reports := by
  rw [Sightings.changes, List.length_filterMap_eq_countP, answeredAsChanges]
  refine List.countP_congr fun pair _ => ?_
  rw [change?_isSome_iff s now, decide_eq_true_eq]

end Follow

/-- The changes that are told about a module lead from its state before to its state after. -/
theorem chained_told (s : Sightings) (clock : Nat) (now : Time.Stamp) (reports : List Report)
    (identity : String) :
    Chained (stateText s identity) ((told s clock reports).filterMap (changeTold? identity))
      (stateText (s.follow (updatesOf now reports)) identity) := by
  induction reports generalizing s with
  | nil => exact rfl
  | cons r reports ih =>
    have later := ih (s.apply r now).1
    have moved := s.stateOf_apply r now identity
    unfold told at later ⊢
    rw [s.changes_cons r reports now]
    by_cases same : s.stateOf r.identity = some r.state
    · -- the module stays in its state, and nothing is told
      have still : stateText (s.apply r now).1 identity = stateText s identity := by
        by_cases here : r.identity = identity
        · rw [stateText, moved, if_pos here, ← same, here, stateText]
        · rw [stateText, moved, if_neg here, stateText]
      rw [s.change?_nil_of_same r same, ← still]
      exact later
    · rw [s.change?_nil_of_ne r same, Option.toList_some, List.singleton_append, List.map_cons,
        List.filterMap_cons]
      by_cases here : r.identity = identity
      · subst here
        rw [stateText, moved, if_pos rfl] at later
        simp only [changeTold?, changeEvent, if_true]
        exact ⟨rfl, later⟩
      · rw [stateText, moved, if_neg here] at later
        simp only [changeTold?, changeEvent, here, if_false]
        exact later

namespace Inbox

/-! ## Lists of reports -/

/-- To take a report is to apply it and to tell of its change, if it is one. -/
theorem takeReport_eq (i : Inbox) (r : Report) :
    i.takeReport r =
      ({ i with
          sightings := (i.sightings.apply r i.now).1
          journal := if i.sightings.stateOf r.identity = some r.state then i.journal
            else i.journal.push ⟨i.clock, changeEvent (i.sightings.stateOf r.identity, r)⟩ },
        decide (i.sightings.stateOf r.identity ≠ some r.state)) := by
  have answer := i.sightings.apply_answer r i.now
  unfold takeReport
  rcases applied : i.sightings.apply r i.now with ⟨sightings, change⟩
  rw [applied] at answer
  by_cases same : i.sightings.stateOf r.identity = some r.state
  · rw [if_pos same] at answer
    subst answer
    simp [same]
  · rw [if_neg same] at answer
    subst answer
    simp [same, tell, changeEvent]

/-- To take reports is to apply them in order and to tell of their changes. -/
theorem takeReports_eq (i : Inbox) (reports : List Report) :
    i.takeReports reports =
      ({ i with
          sightings := i.sightings.follow (updatesOf i.now reports)
          journal := i.journal ++ (told i.sightings i.clock reports).toArray },
        (i.sightings.changes reports).length) := by
  induction reports generalizing i with
  | nil => simp [takeReports, told, Sightings.changes, updatesOf, Sightings.follow]
  | cons r reports ih =>
    simp only [takeReports, takeReport_eq, ih, told, i.sightings.changes_cons r reports i.now]
    by_cases same : i.sightings.stateOf r.identity = some r.state
    · simp [i.sightings.change?_nil_of_same r same, same, updatesOf, Sightings.follow,
        Update.apply, now]
    · simp [i.sightings.change?_nil_of_ne r same, same, updatesOf, Sightings.follow,
        Update.apply, now]

/-! ## Messages -/

/-- A message that cannot be read is counted and told of, and changes nothing else. -/
structure Dropped (i : Inbox) (topic : String) (e : ReadError) (j : Inbox) : Prop where
  time : j.origin = i.origin ∧ j.clock = i.clock
  sightings : j.sightings = i.sightings
  alive : j.lastAlive = i.lastAlive
  wake : j.wake = i.wake
  metrics : j.metrics = { i.metrics with malformedMessages := i.metrics.malformedMessages + 1 }
  journal : j.journal.toList = i.journal.toList ++ [⟨i.clock, .messageDropped topic (reason e)⟩]

/-- A message that can be read is taken in as a whole. -/
structure TakenIn (i : Inbox) (reports : List Report) (j : Inbox) (changed : Nat) : Prop where
  time : j.origin = i.origin ∧ j.clock = i.clock
  metrics : j.metrics = { i.metrics with bizMessages := i.metrics.bizMessages + reports.length }
  alive : j.lastAlive = some i.clock
  /-- The reports are applied one after the other. -/
  sightings : j.sightings = i.sightings.follow (updatesOf i.now reports)
  /-- Of several reports about a module the last one is kept. -/
  last : ∀ identity, (j.sightings.get? identity).map Biz.Sighting.report =
    (Biz.lastAbout reports identity).or
      ((i.sightings.get? identity).map Biz.Sighting.report)
  counted : changed = answeredAsChanges i.sightings i.now reports
  /-- Each change is told of in its turn. -/
  journal : j.journal.toList = i.journal.toList ++ told i.sightings i.clock reports
  tellings : (told i.sightings i.clock reports).length = changed
  chained : ∀ identity, Chained (stateText i.sightings identity)
    ((told i.sightings i.clock reports).filterMap (changeTold? identity))
    (stateText j.sightings identity)
  wake : j.wake = (i.wake || decide (0 < changed))

/-- A message that cannot be read leaves the traces of a malformed one, and nothing else. -/
theorem dropped_receiveReports {payload : ByteArray} {e : ReadError} (i : Inbox) (topic : String)
    (unreadable : Report.decode payload = .error e) :
    (i.receiveReports topic payload).2 = .error e ∧
      Dropped i topic e (i.receiveReports topic payload).1 := by
  unfold receiveReports
  rw [unreadable]
  refine ⟨rfl, ⟨⟨rfl, rfl⟩, rfl, rfl, rfl, rfl, ?_⟩⟩
  simp [tell]

/-- A message that can be read is taken in with all its reports. -/
theorem takenIn_receiveReports {payload : ByteArray} {reports : List Report} (i : Inbox)
    (topic : String) (readable : Report.decode payload = .ok reports) :
    ∃ changed, (i.receiveReports topic payload).2 = .ok changed ∧
      TakenIn i reports (i.receiveReports topic payload).1 changed := by
  unfold receiveReports
  rw [readable]
  dsimp only
  rw [takeReports_eq]
  refine ⟨_, rfl, ?_⟩
  constructor
  case time => exact ⟨rfl, rfl⟩
  case metrics => rfl
  case alive => rfl
  case sightings => rfl
  case last => exact fun identity => report_follow i.sightings i.now reports identity
  case counted => exact length_changes i.sightings i.now reports
  case journal => simp [touch]
  case tellings => exact List.length_map _
  case chained => exact fun identity => chained_told i.sightings i.clock i.now reports identity
  case wake => rfl

/-! ## Sequences of messages -/

/-- A message, and the time at which it comes in milliseconds since the clock was started. -/
structure Letter where
  clock : Nat
  topic : String
  payload : ByteArray

/-- The reports of a letter; none if it cannot be read. -/
def Letter.reports (letter : Letter) : List Report :=
  (Report.decode letter.payload).toOption.getD []

/-- Whether a letter cannot be read. -/
def Letter.unreadable (letter : Letter) : Bool :=
  (Report.decode letter.payload).toOption.isNone

/-- Lets the time pass until a letter comes. -/
def await (i : Inbox) (letter : Letter) : Inbox := { i with clock := letter.clock }

/-- Takes in a letter when it comes. -/
def read (i : Inbox) (letter : Letter) : Inbox × Except ReadError Nat :=
  (i.await letter).receiveReports letter.topic letter.payload

/-- Takes in letters one after the other. -/
def readAll (i : Inbox) (letters : List Letter) : Inbox :=
  letters.foldl (fun i letter => (i.read letter).1) i

/-- What a letter does to an inbox: it is dropped, or it is taken in as a whole. -/
def Accounts (i : Inbox) (letter : Letter) : Prop :=
  match Report.decode letter.payload with
  | .error e => (i.read letter).2 = .error e ∧
      Dropped (i.await letter) letter.topic e (i.read letter).1
  | .ok reports => ∃ changed, (i.read letter).2 = .ok changed ∧
      TakenIn (i.await letter) reports (i.read letter).1 changed

/-- Every message is accounted for. -/
theorem accounts (i : Inbox) (letter : Letter) : i.Accounts letter := by
  unfold Accounts
  cases read : Report.decode letter.payload with
  | error e => exact dropped_receiveReports (i.await letter) letter.topic read
  | ok reports => exact takenIn_receiveReports (i.await letter) letter.topic read

/-- What some letters together have changed. -/
structure Tallies (i : Inbox) (letters : List Letter) (j : Inbox) : Prop where
  origin : j.origin = i.origin
  malformed : j.metrics.malformedMessages =
    i.metrics.malformedMessages + letters.countP Letter.unreadable
  records : j.metrics.bizMessages =
    i.metrics.bizMessages + (letters.map fun letter => letter.reports.length).sum
  sightings : j.sightings = i.sightings.follow (letters.flatMap fun letter =>
    updatesOf (i.origin.addMillis letter.clock) letter.reports)
  wake : i.wake = true → j.wake = true
  /-- What was written into the journal chains up from the first letter to the last one. -/
  chained : ∃ entries, j.journal.toList = i.journal.toList ++ entries ∧
    ∀ identity, Chained (stateText i.sightings identity)
      (entries.filterMap (changeTold? identity)) (stateText j.sightings identity)

/-- Without messages the tallies stay. -/
theorem Tallies.refl (i : Inbox) : Tallies i [] i where
  origin := rfl
  malformed := rfl
  records := rfl
  sightings := rfl
  wake := id
  chained := ⟨[], by simp, fun _ => rfl⟩

/-- Tallies of messages one after the other add up. -/
theorem Tallies.trans {i j k : Inbox} {letters more : List Letter} (first : Tallies i letters j)
    (second : Tallies j more k) : Tallies i (letters ++ more) k where
  origin := second.origin.trans first.origin
  malformed := by
    rw [second.malformed, first.malformed, List.countP_append]
    omega
  records := by
    rw [second.records, first.records, List.map_append, List.sum_append]
    omega
  sightings := by
    rw [second.sightings, first.sightings, first.origin, List.flatMap_append,
      Sightings.follow_append]
  wake woken := second.wake (first.wake woken)
  chained := by
    obtain ⟨entries, journal, chain⟩ := first.chained
    obtain ⟨entries', journal', chain'⟩ := second.chained
    refine ⟨entries ++ entries', by rw [journal', journal, List.append_assoc], fun identity => ?_⟩
    rw [List.filterMap_append]
    exact (chain identity).append (chain' identity)

/-- A message that was dropped is tallied as malformed. -/
theorem Dropped.tallies {i j : Inbox} {letter : Letter} {e : ReadError}
    (dropped : Dropped (i.await letter) letter.topic e j)
    (decoded : Report.decode letter.payload = .error e) : Tallies i [letter] j := by
  have reports : letter.reports = [] := by simp [Letter.reports, decoded, Except.toOption]
  have unreadable : letter.unreadable = true := by
    simp [Letter.unreadable, decoded, Except.toOption]
  constructor
  case origin => exact dropped.time.1
  case malformed => simp [dropped.metrics, unreadable, await]
  case records => simp [dropped.metrics, reports, await]
  case sightings => simp [dropped.sightings, reports, await, updatesOf, Sightings.follow]
  case wake => exact fun woken => dropped.wake.trans woken
  case chained =>
    refine ⟨_, dropped.journal, fun identity => ?_⟩
    rw [dropped.sightings]
    rfl

/-- A message that was taken in is tallied with its reports. -/
theorem TakenIn.tallies {i j : Inbox} {letter : Letter} {reports : List Report} {changed : Nat}
    (taken : TakenIn (i.await letter) reports j changed)
    (decoded : Report.decode letter.payload = .ok reports) : Tallies i [letter] j := by
  have read : letter.reports = reports := by simp [Letter.reports, decoded, Except.toOption]
  have readable : letter.unreadable = false := by
    simp [Letter.unreadable, decoded, Except.toOption]
  constructor
  case origin => exact taken.time.1
  case malformed => simp [taken.metrics, readable, await]
  case records => simp [taken.metrics, read, await]
  case sightings => simp [taken.sightings, read, await, now]
  case wake =>
    intro woken
    rw [taken.wake, await, woken, Bool.true_or]
  case chained => exact ⟨_, taken.journal, taken.chained⟩

/-- Every message is tallied when it is read. -/
theorem tallies_read (i : Inbox) (letter : Letter) : Tallies i [letter] (i.read letter).1 := by
  have account := i.accounts letter
  unfold Accounts at account
  split at account
  · rename_i e decoded
    exact account.2.tallies decoded
  · rename_i reports decoded
    obtain ⟨changed, -, taken⟩ := account
    exact taken.tallies decoded

/-- All messages are tallied when they are read. -/
theorem tallies_readAll (i : Inbox) (letters : List Letter) :
    Tallies i letters (i.readAll letters) := by
  induction letters generalizing i with
  | nil => exact .refl i
  | cons letter letters ih => exact (tallies_read i letter).trans (ih (i.read letter).1)

/-- A letter with a list of records, which is no record itself, and of which one is bad. -/
def Letter.Spoilt (letter : Letter) : Prop :=
  ∃ items, Report.document letter.payload = .ok (.list items) ∧
    Report.ofJson? (.list items) = none ∧ ∃ item ∈ items, Report.ofJson? item = none

/-- A spoilt message is one that does not have the right shape. -/
theorem Letter.Spoilt.mismatch {letter : Letter} (spoilt : letter.Spoilt) :
    Report.decode letter.payload = .error .mismatch := by
  obtain ⟨items, document, record, item, mem, bad⟩ := spoilt
  have nothing : Report.batchOfJson? (.list items) = none := by
    rw [Report.batchOfJson?, record, Report.listOfJson?_eq_none mem bad]
  rw [Report.decode_of_document document, nothing]

/-- After any messages, the next one is taken in as a whole or leaves no trace but that it was
dropped, as it is if one of its records is bad.  The accounts of all messages agree with what is
known then. -/
theorem reports_accounted (i : Inbox) (letters : List Letter) :
    Tallies i letters (i.readAll letters) ∧
      (∀ letter, (i.readAll letters).Accounts letter) ∧
      ∀ letter : Letter, letter.Spoilt → Report.decode letter.payload = .error .mismatch :=
  ⟨tallies_readAll i letters, accounts (i.readAll letters), fun _ => Letter.Spoilt.mismatch⟩

/-- A list of two records, the second of which has no state. -/
theorem reports_accounted_spoilt :
    let good : Json.Value := .object [("name", .text "a"), ("state", .text "ACTIVATED")]
    let bad : Json.Value := .object [("name", .text "b")]
    let letter : Letter := ⟨5, "base/biz", (Json.Value.list [good, bad]).write.toUTF8⟩
    let i : Inbox := empty default
    (i.read letter).2 = .error .mismatch ∧
      Dropped (i.await letter) letter.topic .mismatch (i.read letter).1 := by
  intro good bad letter i
  have spoilt : letter.Spoilt := by
    refine ⟨[good, bad], Report.document_write ?_, rfl, bad, by simp, by decide⟩
    exact ⟨⟨trivial, trivial, trivial⟩, ⟨trivial, trivial⟩, trivial⟩
  obtain ⟨-, account, dropped⟩ := reports_accounted i []
  have told := account letter
  rw [Accounts, dropped letter spoilt] at told
  exact told

end Inbox

end Controller

end VirtualNode
