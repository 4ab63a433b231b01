import VirtualNode.Json.Row
import VirtualNode.Json.Writer

/-!
# Descriptors of modules

A biz module is a unit of code that a base runs.  Its descriptor names the module and says where
its artifact lies.  Two descriptors with the same name and version describe the same module,
wherever the artifact lies.  The identity of a module is its name and version joined by a colon.
-/

set_option autoImplicit false

namespace VirtualNode.Biz

/-- The identity of a module with the given name and version. -/
def identityOf (name version : String) : String :=
  name ++ ":" ++ version

/-- What is needed to install a module. -/
structure Descriptor where
  name : String
  version : String
  /-- Where the artifact lies. -/
  url : String
  deriving DecidableEq, Repr, Inhabited

namespace Descriptor

/-- The identity of the module. -/
def identity (d : Descriptor) : String :=
  identityOf d.name d.version

/-- Whether two descriptors describe the same module. -/
def same (d e : Descriptor) : Bool :=
  d.name = e.name && d.version = e.version

/-- A module is the same as itself. -/
@[simp]
theorem same_self (d : Descriptor) : d.same d = true := by
  simp [same]

/-- It does not matter which of two modules is compared with which. -/
theorem same_comm (d e : Descriptor) : d.same e = e.same d := by
  simp [same, eq_comm]

/-- Modules are the same just if their names and their versions are. -/
theorem same_iff {d e : Descriptor} :
    d.same e = true ↔ d.name = e.name ∧ d.version = e.version := by
  simp [same]

/-- Modules that are the same as a third one are the same. -/
theorem same_trans {d e f : Descriptor} (h : d.same e = true) (h' : e.same f = true) :
    d.same f = true :=
  same_iff.2 ⟨(same_iff.1 h).1.trans (same_iff.1 h').1, (same_iff.1 h).2.trans (same_iff.1 h').2⟩

/-- Sameness of modules goes both ways. -/
theorem same_symm {d e : Descriptor} (h : d.same e = true) : e.same d = true :=
  same_comm d e ▸ h

/-- What describes the same module is the same as just the same descriptors. -/
theorem same_congr_left {d e : Descriptor} (h : d.same e = true) (f : Descriptor) :
    d.same f = e.same f := by
  obtain ⟨name, version⟩ := same_iff.1 h
  simp [same, name, version]

/-- Modules that are the same are the same as the same modules. -/
theorem same_congr_right {d e : Descriptor} (h : d.same e = true) (f : Descriptor) :
    f.same d = f.same e := by
  rw [same_comm, same_congr_left h, same_comm]

/-- A module has one identity. -/
theorem identity_eq_of_same {d e : Descriptor} (h : d.same e = true) :
    d.identity = e.identity := by
  obtain ⟨name, version⟩ := same_iff.1 h
  simp [identity, name, version]

/-- Whether the name of the module has no colon in it. -/
def Plain (d : Descriptor) : Prop := ':' ∉ d.name.toList

instance (d : Descriptor) : Decidable d.Plain := inferInstanceAs (Decidable (¬ _))

/-- Whether a module is plain depends on its name and version alone. -/
theorem Plain.congr {d e : Descriptor} (same : d.same e = true) (plain : d.Plain) : e.Plain := by
  unfold Plain
  rw [← (same_iff.1 same).1]
  exact plain

/-- Where an item stands for the first time is where two equal lists are cut. -/
theorem append_cons_cut {α : Type} {a : α} {xs ys us vs : List α} (hx : a ∉ xs) (hy : a ∉ ys)
    (h : xs ++ a :: us = ys ++ a :: vs) : xs = ys ∧ us = vs := by
  rcases List.append_eq_append_iff.1 h with ⟨zs, rfl, rest⟩ | ⟨zs, rfl, rest⟩
  · cases zs with
    | nil => exact ⟨by simp, (List.cons.inj rest).2⟩
    | cons z zs =>
      obtain ⟨rfl, -⟩ := List.cons.inj rest
      simp at hy
  · cases zs with
    | nil => exact ⟨by simp, (List.cons.inj rest).2.symm⟩
    | cons z zs =>
      obtain ⟨rfl, -⟩ := List.cons.inj rest
      simp at hx

/-- Without colons in the names, modules of one identity are the same. -/
theorem same_of_identity_eq {d e : Descriptor} (plain : d.Plain) (plain' : e.Plain)
    (h : d.identity = e.identity) : d.same e = true := by
  have texts := congrArg String.toList h
  have colon : (":" : String).toList = [':'] := rfl
  simp only [identity, identityOf, String.toList_append, colon, List.append_assoc,
    List.singleton_append] at texts
  obtain ⟨names, versions⟩ := append_cons_cut plain plain' texts
  exact same_iff.2 ⟨String.toList_inj.1 names, String.toList_inj.1 versions⟩

/-- The fields of a descriptor on the wire. -/
def fields : List Json.Field :=
  [⟨"bizName", some "name", .text, true⟩,
   ⟨"bizVersion", some "version", .text, false⟩,
   ⟨"bizUrl", some "url", .text, false⟩]

/-- The descriptor that a row of its fields holds. -/
def ofRow (row : Json.Row) : Descriptor :=
  ⟨row.string 0, row.string 1, row.string 2⟩

/-- The wire document of a descriptor. -/
def toJson (d : Descriptor) : Json.Value :=
  .object [("bizName", .text d.name), ("bizVersion", .text d.version), ("bizUrl", .text d.url)]

/-- The wire text of a descriptor: the payload of install and uninstall commands. -/
def encode (d : Descriptor) : String :=
  d.toJson.write

/-- Reads a descriptor. -/
def decode (payload : ByteArray) : Except Json.ReadError Descriptor := do
  let row ← Json.Row.decode fields (Text.Symbols.ofBytes payload)
  return ofRow row

end Descriptor

end VirtualNode.Biz
