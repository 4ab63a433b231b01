import VirtualNode.Yaml.Value

/-!
# Records in YAML values

Mappings whose keys are the names of fields.  Tags are passed over, except that a field is absent
only if it is null without a tag.  Null counts as a list or a mapping without entries.
-/

set_option autoImplicit false

namespace VirtualNode.Yaml

/-- The entries of a mapping whose keys are texts. -/
abbrev Record := List (String × Value)

namespace Value

/-- A value without its tags. -/
def untagged : Value → Value
  | .tagged _ content => content.untagged
  | v => v

/-- The text that a value is. -/
def text? (v : Value) : Option String :=
  match v.untagged with
  | .scalar (.text s) => some s
  | _ => none

/-- The truth value that a value is. -/
def truth? (v : Value) : Option Bool :=
  match v.untagged with
  | .scalar (.truth b) => some b
  | _ => none

/-- The items of a list. -/
def items? (v : Value) : Option (List Value) :=
  match v.untagged with
  | .list items => some items
  | .scalar .null => some []
  | _ => none

/-- The entries of a mapping. -/
def entries? (v : Value) : Option (List (Value × Value)) :=
  match v.untagged with
  | .mapping entries => some entries
  | .scalar .null => some []
  | _ => none

/-- The entries of a mapping all of whose keys are texts. -/
def members? (v : Value) : Option Record := do
  (← v.entries?).mapM fun e => do return (← e.1.text?, e.2)

/-- The entries of a mapping from texts to texts. -/
def textMap? (v : Value) : Option (List (String × String)) := do
  (← v.members?).mapM fun e => do return (e.1, ← e.2.text?)

/-- The items of a list that `f` reads. -/
def listOf? {α : Type} (f : Value → Option α) (v : Value) : Option (List α) := do
  (← v.items?).mapM f

/-- The members of a mapping that has some fields, none of which stands there twice. -/
def record? (fields : List String) (v : Value) : Option Record := do
  let r ← v.members?
  guard (fields.all fun name => (r.countP fun e => e.1 = name) ≤ 1)
  return r

/-- The name in a word for one of several choices, which may be written as a tag instead. -/
def choice? : Value → Option String
  | .scalar (.text s) => some s
  | .tagged tag (.scalar .null) => some (nameOf tag)
  | _ => none

mutual

/-- Whether a value can be passed on as data without types: there are no tags in it but on keys,
and all keys are texts. -/
def isData : Value → Bool
  | .scalar _ => true
  | .list items => areData items
  | .mapping entries => haveData entries
  | .tagged _ _ => false

/-- Whether the items of a list can be passed on. -/
def areData : List Value → Bool
  | [] => true
  | v :: rest => isData v && areData rest

/-- Whether the entries of a mapping can be passed on. -/
def haveData : List (Value × Value) → Bool
  | [] => true
  | (key, v) :: rest => key.text?.isSome && isData v && haveData rest

end

end Value

namespace Record

/-- The value of a field. -/
def get? (r : Record) (name : String) : Option Value :=
  (r.find? fun e => e.1 = name).map Prod.snd

/-- A field that may be absent or null, read by `f`. -/
def opt? {α : Type} (r : Record) (name : String) (f : Value → Option α) : Option (Option α) :=
  match r.get? name with
  | none | some (.scalar .null) => some none
  | some v => (f v).map some

/-- A text that may be absent. -/
def text? (r : Record) (name : String) : Option (Option String) := r.opt? name Value.text?

/-- A list that may be absent, of which every item is read by `f`. -/
def list? {α : Type} (r : Record) (name : String) (f : Value → Option α) : Option (List α) :=
  (r.opt? name (Value.listOf? f)).map fun items => items.getD []

/-- A text that must be present. -/
def required? (r : Record) (name : String) : Option String :=
  (r.get? name).bind Value.text?

end Record

end VirtualNode.Yaml
