import VirtualNode.Yaml.Event

/-!
# Nodes of YAML documents

A document as a tree.  The events of a document are folded into the tree; a reference stands in it
for the node that it names, which is looked up in a table of marks.

A mark is the number of names that were given before.  A name that is given again does not add to
that number, so that two nodes may bear one mark; then the later one is meant.
-/

set_option autoImplicit false

namespace VirtualNode.Yaml

/-- A tag, as bytes. -/
abbrev TagBytes := List UInt8

/-- A node. -/
inductive Node where
  /-- What another node is, given by its mark. -/
  | reference (mark : Nat)
  | scalar (tag : Option TagBytes) (text : List Char) (plain : Bool)
  | list (tag : Option TagBytes) (items : List Node)
  | mapping (tag : Option TagBytes) (entries : List (Node × Node))
  deriving Repr, Inhabited

/-- A node that bears a mark, and the number of events before it. -/
structure Marked where
  mark : Nat
  position : Nat
  node : Node
  deriving Repr, Inhabited

/-- A document: its tree, the nodes with marks, and the number of its events. -/
structure Document where
  root : Node
  marks : List Marked
  size : Nat
  deriving Repr, Inhabited

/-- The node that bears a mark. -/
def Document.find? (d : Document) (mark : Nat) : Option Node :=
  let later (best : Option Marked) (m : Marked) : Option Marked :=
    if m.mark ≠ mark || best.any fun b => m.position ≤ b.position then best else some m
  (d.marks.foldl later none).map Marked.node

/-- A list or a mapping that has not ended. -/
structure Frame where
  isMapping : Bool
  tag : Option TagBytes
  mark : Option Nat
  position : Nat
  /-- The nodes in it, the last one first. -/
  children : List Node

/-- What is known of a document of which some events have been read. -/
structure Draft where
  /-- The names that were given, each with its last mark. -/
  names : List (List Char × Nat) := []
  marks : List Marked := []
  frames : List Frame := []
  root : Option Node := none
  size : Nat := 0

namespace Draft

/-- Gives a name. -/
def name (d : Draft) : Option (List Char) → Option Nat × Draft
  | none => (none, d)
  | some name =>
    let mark := d.names.length
    (some mark, { d with names := (name, mark) :: d.names.filter fun n => n.1 ≠ name })

/-- Adds a node to what has not ended. -/
def add (d : Draft) (node : Node) : Draft :=
  match d.frames with
  | [] => { d with root := some node }
  | f :: rest => { d with frames := { f with children := node :: f.children } :: rest }

/-- Notes which node bears a mark. -/
def note (d : Draft) (mark : Option Nat) (position : Nat) (node : Node) : Draft :=
  match mark with
  | none => d
  | some mark => { d with marks := ⟨mark, position, node⟩ :: d.marks }

/-- Begins a list or a mapping. -/
def push (d : Draft) (isMapping : Bool) (p : Properties) : Draft :=
  let (mark, d) := d.name p.anchor
  { d with frames := ⟨isMapping, p.tag, mark, d.size, []⟩ :: d.frames }

/-- Keys with their values. -/
def pairs : List Node → List (Node × Node)
  | key :: value :: rest => (key, value) :: pairs rest
  | _ => []

/-- Ends a list or a mapping. -/
def pop? (d : Draft) : Option Draft :=
  match d.frames with
  | [] => none
  | f :: rest =>
    let children := f.children.reverse
    let node := if f.isMapping then .mapping f.tag (pairs children) else .list f.tag children
    some (({ d with frames := rest }.add node).note f.mark f.position node)

/-- Reads an event.  A reference must follow the node that it names. -/
def step? (d : Draft) (e : Event) : Option Draft := do
  let next ← match e with
    | .reference name => do
      let (_, mark) ← d.names.find? fun n => n.1 = name
      pure (d.add (.reference mark))
    | .scalar p text plain =>
      let (mark, named) := d.name p.anchor
      let node := .scalar p.tag text plain
      pure ((named.add node).note mark d.size node)
    | .listStart p => pure (d.push false p)
    | .mappingStart p => pure (d.push true p)
    | .listEnd | .mappingEnd => d.pop?
  return { next with size := d.size + 1 }

end Draft

/-- The document of some events. -/
def Document.ofEvents? (events : List Event) : Option Document := do
  let d ← events.foldlM Draft.step? {}
  return ⟨← d.root, d.marks, d.size⟩

end VirtualNode.Yaml
