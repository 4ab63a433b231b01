import VirtualNode.Biz.Descriptor
import VirtualNode.Biz.State

/-!
# Reports of a base

A base reports what it knows about a module in one record.  A message carries one record or a
list of records; both forms are tried, the single record first.
-/

set_option autoImplicit false

namespace VirtualNode.Biz

/-- What a base reports about one module. -/
structure Report where
  name : String
  version : String
  state : State
  mainClass : String
  webContextPath : String
  deriving DecidableEq, Repr, Inhabited

namespace Report

/-- The identity of the module that the report is about. -/
def identity (r : Report) : String :=
  identityOf r.name r.version

/-- The fields of a report on the wire. -/
def fields : List Json.Field :=
  [⟨"bizName", some "name", .text, true⟩,
   ⟨"bizVersion", some "version", .text, false⟩,
   ⟨"bizState", some "state", .text, true⟩,
   ⟨"mainClass", none, .text, false⟩,
   ⟨"webContextPath", none, .text, false⟩]

/-- The report that a row of its fields holds. -/
def ofRow (row : Json.Row) : Report where
  name := row.string 0
  version := row.string 1
  state := State.parse (row.string 2)
  mainClass := row.string 3
  webContextPath := row.string 4

/-- The report that a document holds. -/
def ofJson? (v : Json.Value) : Option Report :=
  (Json.Row.ofValue? fields v).map ofRow

/-- The reports that a list document holds. -/
def listOfJson? (v : Json.Value) : Option (List Report) := do
  let items ← v.items?
  items.mapM ofJson?

/-- The reports of a message body: one record, or a list of records. -/
def batchOfJson? (v : Json.Value) : Option (List Report) :=
  match ofJson? v with
  | some r => some [r]
  | none => listOfJson? v

/-- The wire document of a report. -/
def toJson (r : Report) : Json.Value :=
  .object [("bizName", .text r.name), ("bizVersion", .text r.version),
    ("bizState", .text r.state.text), ("mainClass", .text r.mainClass),
    ("webContextPath", .text r.webContextPath)]

/-- The wire text of a single report. -/
def encode (r : Report) : String :=
  r.toJson.write

/-- The wire text of a list of reports. -/
def encodeBatch (rs : List Report) : String :=
  (Json.Value.list (rs.map toJson)).write

/-- Reads the reports of a message. -/
def decode (payload : ByteArray) : Except Json.ReadError (List Report) :=
  Json.decode batchOfJson? (Text.Symbols.ofBytes payload)

/-- The wording of a document that is no message of reports. -/
def mismatchMessage : String :=
  "data did not match any variant of untagged enum BizInfoPayload"

end Report

end VirtualNode.Biz
