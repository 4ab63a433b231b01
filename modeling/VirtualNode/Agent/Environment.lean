/-!
# Environment variables

The variables that a process is started with.  A name that occurs twice has the value that was set
last.
-/

set_option autoImplicit false

namespace VirtualNode.Agent

/-- The names and the values of variables, in the order in which they were set. -/
abbrev Environment := List (String × String)

/-- The value of a variable. -/
def Environment.value? (env : Environment) (name : String) : Option String :=
  (env.reverse.find? fun e => e.1 = name).map Prod.snd

end VirtualNode.Agent
