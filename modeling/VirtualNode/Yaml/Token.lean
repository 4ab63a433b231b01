import VirtualNode.Yaml.Cursor

/-!
# Tokens of YAML texts

The smallest parts of a YAML text: marks that open and close documents, lists and mappings, marks
that stand before their parts, directives, and the properties and contents of nodes.
-/

set_option autoImplicit false

namespace VirtualNode.Yaml

/-- A token.  Tags are kept as bytes, because their parts may be encoded. -/
inductive Token where
  | versionDirective (major minor : Nat)
  /-- A short form of the beginnings of tags. -/
  | tagDirective (handle : List Char) (stem : List UInt8)
  | documentStart
  | documentEnd
  | blockListStart
  | blockMappingStart
  | blockEnd
  | flowListStart
  | flowListEnd
  | flowMappingStart
  | flowMappingEnd
  /-- The mark before an item of a list that is laid out in lines. -/
  | blockEntry
  /-- The mark between items. -/
  | flowEntry
  /-- The mark before a key. -/
  | key
  /-- The mark before a value. -/
  | value
  /-- A node that has been named before. -/
  | reference (name : List Char)
  /-- The name of a node. -/
  | anchor (name : List Char)
  | tag (handle : List Char) (rest : List UInt8)
  /-- A scalar, and whether it stands without quotes and marks. -/
  | scalar (text : List Char) (plain : Bool)
  | streamEnd
  deriving DecidableEq, Repr, Inhabited

end VirtualNode.Yaml
