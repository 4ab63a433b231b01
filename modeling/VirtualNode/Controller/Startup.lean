import VirtualNode.Controller.Settings
import VirtualNode.Kube.Access
import VirtualNode.Mqtt.Client

/-!
# Startup

What has to work before a controller exists: its settings must be usable, the broker must accept
it, and it must be known how the cluster is reached, in this order.
-/

set_option autoImplicit false

namespace VirtualNode.Controller

/-- What a controller starts with. -/
structure Equipment (α η : Type) where
  settings : Settings
  transport : Mqtt.Client α η
  access : Kube.Access

/-- Gathers what a controller starts with, or names the first thing that does not work. -/
def equip {α η : Type} (settings : Settings) (transport : Except Fault (Mqtt.Client α η))
    (access : Except Kube.AccessError Kube.Access) : Except Fault (Equipment α η) := do
  settings.validate
  return ⟨settings, ← transport, ← access.mapError Kube.AccessError.fault⟩

end VirtualNode.Controller
