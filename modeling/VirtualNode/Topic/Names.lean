/-!
# The topics of a node

A base and the controller of its node talk on five topics, all of them below the node's id.
-/

set_option autoImplicit false

namespace VirtualNode.Topic

/-- What a topic of a node is for. -/
inductive Purpose where
  /-- The base reports the states of modules. -/
  | bizState
  /-- The base says that it is alive. -/
  | baseHeart
  /-- The controller asks for a module to be installed. -/
  | installBiz
  /-- The controller asks for a module to be uninstalled. -/
  | uninstallBiz
  /-- The controller probes the connection. -/
  | health
  deriving DecidableEq, Repr, Inhabited

/-- The part of a topic below the node's id. -/
def Purpose.suffix : Purpose → String
  | bizState => "base/biz"
  | baseHeart => "base/heart"
  | installBiz => "installBiz"
  | uninstallBiz => "uninstallBiz"
  | health => "health"

/-- The topic of a node for a purpose. -/
def name (nodeId : String) (purpose : Purpose) : String :=
  "koupleless/" ++ nodeId ++ "/" ++ purpose.suffix

end VirtualNode.Topic
