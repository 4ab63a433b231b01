import VirtualNode.Kube.Shapes.Common

/-!
# The shape of outcomes

The object by which the API server tells how a request ended.  Unlike the objects of the cluster it
is read as a record: no member may be repeated, null stands for nothing but a missing part, and the
values of its parts may be given as lists.
-/

set_option autoImplicit false

namespace VirtualNode.Kube.Shapes

open Json (Need Shape ShapeField)

/-- A part of an outcome. -/
def part (fields : List ShapeField) : Shape := .object .record fields

/-- Texts for which the empty text stands, and which may not be null. -/
def partTexts (names : List String) : List ShapeField :=
  names.map fun name => (name, Need.defaulted (.text ""), .text)

/-- A member for which a document stands, and which may not be null. -/
def partField (name : String) (shape : Shape) (standing : Json.Value) : ShapeField :=
  (name, Need.defaulted standing, shape)

/-- What led to an outcome. -/
def cause : Shape := part (partTexts ["reason", "message", "field"])

/-- What an outcome is about. -/
def details : Shape :=
  part (partTexts ["name", "group", "kind", "uid"]
    ++ [partField "causes" (.list cause) (.list []),
      partField "retryAfterSeconds" (.whole 0 4294967295) (.ofInt 0)])

/-- How a request ended. -/
def outcome : Shape :=
  part ([optional "status" (.choice ["Success", "Failure"]),
      partField "code" (.whole 0 65535) (.ofInt 0)]
    ++ partTexts ["message", "reason"] ++ [optional "details" details])

end VirtualNode.Kube.Shapes
