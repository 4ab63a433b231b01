/-!
# Topic filters

Topics are texts whose levels are separated by slashes.  In a filter the level `+` stands for any
one level and the level `#` for all levels from there on, including none.  A topic that begins
with a dollar sign is met by no filter that begins with a wildcard.
-/

set_option autoImplicit false

namespace VirtualNode.Topic

/-- The levels of a topic or a filter. -/
def levels (s : String) : List (List Char) :=
  split s.toList
where
  /-- The parts between slashes. -/
  split : List Char → List (List Char)
    | [] => [[]]
    | '/' :: cs => [] :: split cs
    | c :: cs => match split cs with
      | [] => [[c]]
      | level :: rest => (c :: level) :: rest

/-- Whether the levels of a filter match those of a topic. -/
def matchLevels : List (List Char) → List (List Char) → Bool
  | ['#'] :: _, _ => true
  | ['+'] :: fs, _ :: ts => matchLevels fs ts
  | f :: fs, t :: ts => f = t && matchLevels fs ts
  | [], [] => true
  | _, _ => false

/-- Whether a text begins with a wildcard. -/
def startsWild (cs : List Char) : Bool :=
  match cs with
  | '+' :: _ | '#' :: _ => true
  | _ => false

/-- Whether a text begins with a dollar sign. -/
def isSystem (cs : List Char) : Bool :=
  cs.head? = some '$'

/-- Whether a filter matches a topic. -/
def filterMatches (filter topic : String) : Bool :=
  !(isSystem topic.toList && startsWild filter.toList) &&
    matchLevels (levels filter) (levels topic)

end VirtualNode.Topic
