import VirtualNode.Biz.Report
import VirtualNode.Table
import VirtualNode.Time.Stamp

/-!
# What was last seen of each module

A sighting is the last report about a module together with the time since which the module has
been in the reported state.  `Sightings` keeps one sighting for each identity.
-/

set_option autoImplicit false

namespace VirtualNode.Biz

/-- The last report about a module. -/
structure Sighting where
  report : Report
  /-- When the module was first reported to be in this state without a break. -/
  since : Time.Stamp
  deriving DecidableEq, Repr, Inhabited

/-- What a report changed. -/
inductive Change where
  /-- The module was already known to be in the reported state. -/
  | unchanged
  /-- The module is in another state than before, if it was known before. -/
  | changed (previous : Option State)
  deriving DecidableEq, Repr, Inhabited

/-- The last sighting of each module. -/
structure Sightings where
  table : Table String Sighting

namespace Sightings

/-- Nothing has been seen. -/
def empty : Sightings := ⟨Table.empty⟩

instance : Inhabited Sightings := ⟨empty⟩

/-- The last sighting of the module with this identity. -/
def get? (s : Sightings) (identity : String) : Option Sighting :=
  s.table.get? identity

/-- The number of modules seen. -/
def size (s : Sightings) : Nat := s.table.size

/-- The sighting after a report, given the one before it. -/
def observe (previous : Option Sighting) (report : Report) (now : Time.Stamp) :
    Sighting × Change :=
  match previous with
  | none => (⟨report, now⟩, .changed none)
  | some seen =>
    if seen.report.state = report.state then (⟨report, seen.since⟩, .unchanged)
    else (⟨report, now⟩, .changed (some seen.report.state))

/-- Records a report.  The time moves only when the state changes. -/
def apply (s : Sightings) (report : Report) (now : Time.Stamp) : Sightings × Change :=
  let (seen, change) := observe (s.get? report.identity) report now
  (⟨s.table.insert report.identity seen⟩, change)

/-- Forgets a module. -/
def remove (s : Sightings) (identity : String) : Sightings :=
  ⟨s.table.erase identity⟩

/-- What is known after a report. -/
theorem get?_apply (s : Sightings) (report : Report) (now : Time.Stamp) (identity : String) :
    (s.apply report now).1.get? identity =
      if report.identity = identity then
        some (observe (s.get? report.identity) report now).1
      else s.get? identity := by
  simp [apply, get?, Table.get?_insert]

/-- What is known after a module has been forgotten. -/
theorem get?_remove (s : Sightings) (forgotten identity : String) :
    (s.remove forgotten).get? identity =
      if forgotten = identity then none else s.get? identity := by
  simp [remove, get?, Table.get?_erase]

end Sightings

end VirtualNode.Biz
