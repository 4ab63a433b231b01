import VirtualNode.Json.Row
import VirtualNode.Json.Writer
import VirtualNode.Time.Stamp

/-!
# Probes

A probe is a small message that the controller publishes to find out whether the broker still
acknowledges what it is sent.
-/

set_option autoImplicit false

namespace VirtualNode.Biz

/-- The message that probes the connection. -/
structure Probe where
  nodeId : String
  /-- When the probe was made, in milliseconds since the beginning of 1970. -/
  timestamp : Int
  deriving DecidableEq, Repr, Inhabited

namespace Probe

/-- The probe of a node at a point in time. -/
def ofNode (nodeId : String) (now : Time.Stamp) : Probe :=
  ⟨nodeId, now.wholeMillis⟩

/-- The fields of a probe on the wire. -/
def fields : List Json.Field :=
  [⟨"nodeId", none, .text, true⟩, ⟨"timestamp", none, .whole, true⟩]

/-- The wire text of a probe. -/
def encode (p : Probe) : String :=
  (Json.Value.object [("nodeId", .text p.nodeId), ("timestamp", .ofInt p.timestamp)]).write

/-- Reads a probe. -/
def decode (payload : ByteArray) : Except Json.ReadError Probe := do
  let row ← Json.Row.decode fields (Text.Symbols.ofBytes payload)
  return ⟨row.string 0, row.integer 1⟩

end Probe

end VirtualNode.Biz
