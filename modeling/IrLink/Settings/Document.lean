import IrLink.Settings
import IrLink.Text.Utf8
import IrLink.Toml.Document

/-!
# Settings in a document

Settings are written in TOML, as entries of the table of all, or as the value
of its key `decoder`.  That value is a table, or an array in which the choices
stand in a fixed order.  A choice that is not written is the default, and keys
without a meaning are passed over.
-/

namespace IrLink.Settings

open Toml (Value)

/-- The depth that a value states. -/
def depthOf? : Value → Option Nat
  | .integer (.ofNat depth) => some depth
  | _ => none

/-- The truth value that a value states. -/
def truthOf? : Value → Option Bool
  | .boolean truth => some truth
  | _ => none

/-- The settings with the choices that are written. -/
def choose? (maxDepth checkSymbolKinds : Option Value) : Option Settings := do
  let standard : Settings := {}
  return {
    maxDepth := ← maxDepth.elim (some standard.maxDepth) depthOf?
    checkSymbolKinds := ← checkSymbolKinds.elim (some standard.checkSymbolKinds) truthOf? }

/-- The settings that a value states. -/
def ofValue? : Value → Option Settings
  | .table _ entries =>
    choose? (entries.lookup "max_depth") (entries.lookup "check_symbol_kinds")
  | .array [] => choose? none none
  | .array [maxDepth] => choose? (some maxDepth) none
  | .array [maxDepth, checkSymbolKinds] => choose? (some maxDepth) (some checkSymbolKinds)
  | _ => none

/-- The part of a document in which settings are looked for. -/
def sectionOf : Value → Value
  | .table opening entries => (entries.lookup "decoder").getD (.table opening entries)
  | value => value

/-- The settings that a text states, if they are usable. -/
def ofText (text : String) : Except Fault Settings := do
  match (Toml.Document.ofText? text).bind fun document => ofValue? (sectionOf document) with
  | none => throw .malformed
  | some settings =>
    settings.validate
    return settings

/-- The settings that a file states, of which the bytes are given if there is
such a file. -/
def ofFile : Option (List UInt8) → Except Fault Settings
  | none => .error .unreadable
  | some bytes =>
    match Text.Utf8.decode bytes with
    | .ok text => ofText text
    | .error _ => .error .unreadable

end IrLink.Settings
