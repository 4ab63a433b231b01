import VirtualNode.Yaml.Node
import VirtualNode.Yaml.Plain

/-!
# YAML values

What the nodes of a document stand for.  References are resolved, plain scalars get their types,
and tags of an application's own are kept.  No mapping holds a key twice.

Main definition: `read?`, the values of the documents in a text.
-/

set_option autoImplicit false

namespace VirtualNode.Yaml

/-- A value. -/
inductive Value where
  | scalar (s : Scalar)
  | list (items : List Value)
  | mapping (entries : List (Value × Value))
  /-- A value with a tag of an application's own. -/
  | tagged (tag : String) (content : Value)
  deriving Repr, Inhabited

namespace Value

/-- A tag without the exclamation mark that may stand before its name. -/
def nameOf (tag : String) : String :=
  match tag.toList with
  | '!' :: c :: cs => String.ofList (c :: cs)
  | _ => tag

/-! ## Sameness -/

mutual

/-- Whether two values are the same.  The order of the entries of a mapping means nothing. -/
def same : Value → Value → Bool
  | .scalar a, .scalar b => a.same b
  | .list xs, .list ys => sameItems xs ys
  | .mapping es, .mapping fs => es.length = fs.length && eachIn es fs
  | .tagged s a, .tagged t b => nameOf s = nameOf t && same a b
  | _, _ => false

/-- Whether two lists hold the same items. -/
def sameItems : List Value → List Value → Bool
  | [], [] => true
  | x :: xs, y :: ys => same x y && sameItems xs ys
  | _, _ => false

/-- Whether each of some entries is also one of others. -/
def eachIn : List (Value × Value) → List (Value × Value) → Bool
  | [], _ => true
  | (key, value) :: rest, fs => (fs.any fun f => same key f.1 && same value f.2) && eachIn rest fs

end

/-- Whether no key stands twice in a mapping. -/
def keysDiffer : List (Value × Value) → Bool
  | [] => true
  | (key, _) :: rest => (rest.all fun e => !key.same e.1) && keysDiffer rest

end Value

/-! ## Tags -/

/-- The tag of an application's own that bytes stand for, if it can be read. -/
def ownTag? : TagBytes → Option String
  | [33] => some "!"
  | 33 :: name => String.fromUTF8? ⟨name.toArray⟩
  | _ => none

/-- The tag that every document knows under a name. -/
def commonTag (name : String) : TagBytes := asciiBytes (commonStem ++ name)

/-- What a scalar is whose tag is none of an application's own. -/
def Scalar.ofTagged? (tag : TagBytes) (text : List Char) (plain : Bool) : Option Scalar :=
  let s := String.ofList text
  if tag = commonTag "bool" then (truth? s).map truth
  else if tag = commonTag "int" then
    (wholeOf? text).bind fun n => if fits 64 n then some (whole n) else none
  else if tag = commonTag "float" then (fractionOf? text).map fraction
  else if tag = commonTag "null" then (if isNull s then some null else none)
  else if plain && tag.head? = some 33 then ofPlain? text
  else some (Scalar.text s)

/-- What a scalar is that has no tag, or one of an application's own. -/
def Scalar.ofUntagged? (text : List Char) (plain : Bool) : Option Scalar :=
  if plain then ofPlain? text else some (Scalar.text (String.ofList text))

/-- The value of a scalar. -/
def Scalar.value? (tag : Option TagBytes) (text : List Char) (plain : Bool) : Option Value :=
  match tag with
  | none => (Scalar.ofUntagged? text plain).map Value.scalar
  | some tag =>
    match ownTag? tag with
    | none => (Scalar.ofTagged? tag text plain).map Value.scalar
    | some name => (Scalar.ofUntagged? text plain).map fun s => .tagged name (.scalar s)

/-! ## Documents -/

namespace Document

/-- Resolving, which counts the references that were followed. -/
abbrev Resolving := StateT Nat Option

/-- The most lists and mappings that lie within one another. -/
def depthLimit : Nat := 128

/-- The references that may be followed for each event of a document. -/
def referenceLimit : Nat := 100

/-- The node that a node stands for. -/
def follow (d : Document) : Node → Resolving Node
  | .reference mark => do
    let count ← get
    guard (count < d.size * referenceLimit)
    set (count + 1)
    liftM (d.find? mark)
  | node => pure node

/-- A list or a mapping with the tag that it has. -/
def withTag (tag : Option TagBytes) (v : Value) : Value :=
  match tag.bind ownTag? with
  | none => v
  | some name => .tagged name v

/-- The value of a node in which lists and mappings may lie within one another up to a depth. -/
def valueOf? (d : Document) : (depth : Nat) → Node → Resolving Value
  | 0, node => do
    match ← d.follow node with
    | .scalar tag text plain => liftM (Scalar.value? tag text plain)
    | _ => failure
  | depth + 1, node => do
    match ← d.follow node with
    | .scalar tag text plain => liftM (Scalar.value? tag text plain)
    | .list tag items => return withTag tag (.list (← items.mapM (valueOf? d depth)))
    | .mapping tag entries =>
      let entries ← entries.mapM fun e => do
        return (← valueOf? d depth e.1, ← valueOf? d depth e.2)
      guard (Value.keysDiffer entries)
      return withTag tag (.mapping entries)
    | .reference _ => failure

/-- The value of a document. -/
def value? (d : Document) : Option Value :=
  ((d.valueOf? depthLimit d.root).run 0).map Prod.fst

end Document

/-- The values of the documents in a text.  A text without documents counts as null. -/
def read? (text : String) : Option (List Value) := do
  match ← events? text with
  | [] => return [.scalar .null]
  | documents => documents.mapM fun events => do (← Document.ofEvents? events).value?

end VirtualNode.Yaml
