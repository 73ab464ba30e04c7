import IrLink.Data.Number
import IrLink.Universe

/-!
# Universes in plain data

A universe is described by its name, the list of its descriptors, the members
of its packages and the scopes of its classes.  Descriptors are named by their
position in the list, and each mentions earlier ones only.
-/

namespace IrLink

open Data (Form)

/-- A descriptor; its position in the list gives it its identity. -/
def Descriptor.ofData? (data : Data) : Option Descriptor := do
  return {
    id := .declared 0
    kind := ← DescriptorKind.ofName? (← data.get? "kind")
    name := ← data.get? "name"
    index := ← data.get? "index"
    overridden := ← data.get? "fake_override"
    getter := ← data.get? "getter"
    setter := ← data.get? "setter" }

namespace DescriptorTable

/-- The table of listed descriptors. -/
def ofData? (data : Data) : Option DescriptorTable := do
  (← data.items?).foldlM (fun table entry => do table.add? (← Descriptor.ofData? entry)) empty

/-- The descriptors at listed positions. -/
def namedIn? (table : DescriptorTable) (data : Data) (field : String) :
    Option (List Descriptor) := do
  (← data.get? field : List Nat).mapM table.get?

end DescriptorTable

namespace Universe

/-- The universe with the members of a package that is given as a pair of its
name and a list of positions. -/
def addPackageOfData? (world : Universe) : Data → Option Universe
  | .list [.text package, positions] => do
    let members ← (← Data.ofData? positions : List Nat).mapM world.table.get?
    return members.foldl (addPackageMember · package ·) world
  | _ => none

/-- The universe with the scope of a described class. -/
def addClassOfData? (world : Universe) (data : Data) : Option Universe := do
  return world.addClass (← data.get? "package") (← data.get? "class") {
    descriptor := ← world.table.get? (← data.get? "descriptor")
    members := ← world.table.namedIn? data "members"
    constructors := ← world.table.namedIn? data "constructors"
    staticFunctions := ← world.table.namedIn? data "static_functions" }

/-- The universe that data describes. -/
def ofData? (data : Data) : Option Universe := do
  let bare : Universe :=
    { name := ← data.get? "name", table := ← DescriptorTable.ofData? (data.field "descriptors") }
  let packed ← (← (data.field "packages").items?).foldlM addPackageOfData? bare
  (← (data.field "classes").items?).foldlM addClassOfData? packed

end Universe

end IrLink
