/-!
# Delivery guarantees

How often a message is delivered.  The guarantees are numbered on the wire.
-/

set_option autoImplicit false

namespace VirtualNode.Mqtt

/-- The guarantee for the delivery of a message. -/
inductive Qos where
  /-- At most once: nobody acknowledges. -/
  | atMostOnce
  /-- At least once: repetitions are possible. -/
  | atLeastOnce
  /-- Exactly once. -/
  | exactlyOnce
  deriving DecidableEq, Repr

namespace Qos

/-- A message is delivered at least once unless something else is asked for. -/
def standard : Qos := atLeastOnce

instance : Inhabited Qos := ⟨standard⟩

/-- The number of a guarantee. -/
def level : Qos → Nat
  | atMostOnce => 0
  | atLeastOnce => 1
  | exactlyOnce => 2

/-- The guarantee with a given number. -/
def ofLevel? : Nat → Option Qos
  | 0 => some atMostOnce
  | 1 => some atLeastOnce
  | 2 => some exactlyOnce
  | _ => none

/-- The number of a quality of service is read back as that quality. -/
theorem ofLevel?_level (q : Qos) : ofLevel? q.level = some q := by
  cases q <;> rfl

/-- What is read as a quality of service is its number. -/
theorem level_of_ofLevel? {n : Nat} {q : Qos} (h : ofLevel? n = some q) : q.level = n := by
  match n, h with
  | 0, h | 1, h | 2, h => cases h; rfl

end Qos

end VirtualNode.Mqtt
