import VirtualNode.Table
import VirtualNode.Topic.Filter

/-!
# Routes

Which handler a message goes to.  Every filter has at most one handler; a message goes to the
handler of the oldest filter that matches its topic.
-/

set_option autoImplicit false

namespace VirtualNode.Mqtt

/-- The handlers of filters, oldest filter first. -/
structure Routes (η : Type) where
  table : Table String η

namespace Routes

variable {η : Type}

/-- No filter has a handler. -/
def empty : Routes η := ⟨Table.empty⟩

instance : Inhabited (Routes η) := ⟨empty⟩

/-- Gives a filter a handler.  A filter that has one keeps its place. -/
def set (r : Routes η) (filter : String) (handler : η) : Routes η :=
  ⟨r.table.insert filter handler⟩

/-- Takes a filter out. -/
def remove (r : Routes η) (filter : String) : Routes η :=
  ⟨r.table.erase filter⟩

/-- The handler for messages on a topic, if there is one. -/
def handler? (r : Routes η) (topic : String) : Option η :=
  (r.table.entries.find? fun e => Topic.filterMatches e.1 topic).map Prod.snd

/-- The handler for messages on a topic; messages that no filter matches go to `fallback`. -/
def dispatch (r : Routes η) (fallback : η) (topic : String) : η :=
  (r.handler? topic).getD fallback

end Routes

end VirtualNode.Mqtt
