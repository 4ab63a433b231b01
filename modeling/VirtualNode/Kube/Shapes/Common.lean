import VirtualNode.Json.Shape

/-!
# Shapes that cluster objects share

The building blocks of the shapes of nodes and pods: members of the usual kinds, the metadata of an
object, and the quantities of resources.
-/

set_option autoImplicit false

namespace VirtualNode.Kube.Shapes

open Json (Need Shape ShapeField Value)

/-! ## Kinds of values -/

/-- A signed 32-bit word. -/
def int32 : Shape := .whole (-2147483648) 2147483647

/-- A signed 64-bit word. -/
def int64 : Shape := .whole (-9223372036854775808) 9223372036854775807

/-- A port, by its number or its name. -/
def port : Shape := .wholeOrText (-2147483648) 2147483647

/-- A list of texts. -/
def texts : Shape := .list .text

/-- Texts by name. -/
def textTable : Shape := .table .text

/-! ## Members -/

/-- Members of one shape that may be absent. -/
def optionals (shape : Shape) (names : List String) : List ShapeField :=
  names.map fun name => (name, Need.optional, shape)

/-- A member that may be absent. -/
def optional (name : String) (shape : Shape) : ShapeField := (name, Need.optional, shape)

/-- Texts for which the empty text stands. -/
def standingTexts (names : List String) : List ShapeField :=
  names.map fun name => (name, Need.standing (.text ""), .text)

/-- A number for which zero stands. -/
def standingNumber (name : String) (shape : Shape) : ShapeField :=
  (name, Need.standing (.ofInt 0), shape)

/-- A truth value for which falsity stands. -/
def standingTruth (name : String) : ShapeField := (name, Need.standing (.bool false), .truth)

/-- An object of the cluster, or a part of one. -/
def record (fields : List ShapeField) : Shape := .object .lenient fields

/-- The members that tell the type of an object. -/
def typeFields (kind : String) : List ShapeField :=
  [("apiVersion", Need.skippable, .word ["v1"]), ("kind", Need.skippable, .word [kind])]

/-! ## Metadata -/

/-- Who has set which members of an object. -/
def managedFields : Shape :=
  record (optionals .text ["apiVersion", "fieldsType", "manager", "operation", "subresource"]
    ++ [optional "fieldsV1" .anything, optional "time" .stamp])

/-- An object on which another one depends. -/
def ownerReference : Shape :=
  record (standingTexts ["apiVersion", "kind", "name", "uid"]
    ++ optionals .truth ["blockOwnerDeletion", "controller"])

/-- The metadata of an object. -/
def objectMeta : Shape :=
  record (optionals .text ["generateName", "name", "namespace", "resourceVersion", "selfLink",
      "uid"]
    ++ optionals textTable ["annotations", "labels"]
    ++ optionals .stamp ["creationTimestamp", "deletionTimestamp"]
    ++ optionals int64 ["deletionGracePeriodSeconds", "generation"]
    ++ [optional "finalizers" texts, optional "managedFields" (.list managedFields),
      optional "ownerReferences" (.list ownerReference)])

/-- The metadata of a list of objects. -/
def listMeta : Shape :=
  record (optionals .text ["continue", "resourceVersion", "selfLink"]
    ++ [optional "remainingItemCount" int64])

/-! ## Resources -/

/-- Resources that are claimed by name. -/
def resourceClaims : Shape := .list (record (standingTexts ["name"]))

/-- The least and the most resources that a container may use. -/
def resources : Shape :=
  record (optional "claims" resourceClaims :: optionals textTable ["limits", "requests"])

end VirtualNode.Kube.Shapes
