import VirtualNode.Json.Value
import VirtualNode.Time.Reading

/-!
# Members of a known shape

Reading and writing the members of an object whose shape is known.  A member that is absent and a
member that is null are the same; a member of the wrong kind makes the whole object unreadable.
-/

set_option autoImplicit false

namespace VirtualNode.Json

namespace Members

/-- An optional member, read by `f`. -/
def opt? {α : Type} (ms : Members) (name : String) (f : Value → Option α) : Option (Option α) :=
  match ms.present? name with
  | none => some none
  | some v => (f v).map some

/-- A member whose absence means a given value. -/
def withDefault? {α : Type} (ms : Members) (name : String) (f : Value → Option α) (a : α) :
    Option α :=
  (ms.opt? name f).map (·.getD a)

/-- An optional string. -/
def text? (ms : Members) (name : String) : Option (Option String) :=
  ms.opt? name Value.text?

/-- A string whose absence means the empty string. -/
def string? (ms : Members) (name : String) : Option String :=
  ms.withDefault? name Value.text? ""

/-- A list of which every item is read by `f`. -/
def list? {α : Type} (ms : Members) (name : String) (f : Value → Option α) :
    Option (Option (List α)) :=
  ms.opt? name fun v => v.items?.bind (·.mapM f)

end Members

/-- A point in time. -/
def Value.stamp? (v : Value) : Option Time.Stamp :=
  v.text?.bind Time.Stamp.parseFreely?

/-- The document of a point in time: whole seconds in UTC. -/
def Value.ofStamp (t : Time.Stamp) : Value := .text t.text

/-- An object from strings to strings. -/
def Value.strings? (v : Value) : Option (List (String × String)) := do
  let ms ← v.members?
  ms.mapM fun m => m.2.text?.map fun s => (m.1, s)

/-- The object of pairs of strings. -/
def Value.ofStrings (pairs : List (String × String)) : Value :=
  .object (pairs.map fun p => (p.1, .text p.2))

end VirtualNode.Json
