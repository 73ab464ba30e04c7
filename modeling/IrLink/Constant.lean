import IrLink.Decimal.Format
import IrLink.Text.Quoted

/-!
# Constants

The values that a program can hold as literals, as they are recorded and as
they stand in a tree.  Floating-point numbers are given by their bits, so two
constants are equal only if nothing can tell them apart.  Small integers are
recorded in 32 bits, of which the tree keeps the low ones.
-/

namespace IrLink

/-- A literal of a tree. -/
inductive Constant where
  | null
  | boolean (value : Bool)
  | byte (value : Int8)
  /-- A character, as a unit of UTF-16. -/
  | char (unit : UInt16)
  | short (value : Int16)
  | int (value : Int32)
  | long (value : Int64)
  | string (value : String)
  | float (bits : UInt32)
  | double (bits : UInt64)
  deriving DecidableEq, Repr

/-- The name of the type of a literal. -/
def Constant.typeName : Constant → String
  | null => "null"
  | boolean _ => "boolean"
  | byte _ => "byte"
  | char _ => "char"
  | short _ => "short"
  | int _ => "int"
  | long _ => "long"
  | string _ => "string"
  | float _ => "float"
  | double _ => "double"

/-- Numbers of literals are written without an exponent, and whole ones without
a point. -/
def Constant.layout : Decimal.Layout :=
  ⟨.toLarger, false, fun _ => true⟩

/-- The text of a literal: numbers with a letter for their width, characters
and strings between quotes. -/
def Constant.text : Constant → String
  | null => "null"
  | boolean value => if value then "true" else "false"
  | byte value => toString value.toInt ++ "b"
  | char unit => "'\\u\x7b" ++ Text.hexPadded 4 unit.toNat ++ "\x7d'"
  | short value => toString value.toInt ++ "s"
  | int value => toString value.toInt
  | long value => toString value.toInt ++ "L"
  | string value => Text.asciiQuoted value
  | float bits => Decimal.single.text layout bits.toNat ++ "f"
  | double bits => Decimal.double.text layout bits.toNat

/-- A literal of a record. -/
inductive RecordedConstant where
  | unset
  | null
  | boolean (value : Bool)
  | byte (value : Int32)
  | char (value : Int32)
  | short (value : Int32)
  | int (value : Int32)
  | long (value : Int64)
  | string (value : String)
  | float (bits : UInt32)
  | double (bits : UInt64)
  deriving DecidableEq, Repr

/-- The literal that is recorded, unless none is. -/
def RecordedConstant.value? : RecordedConstant → Option Constant
  | unset => none
  | null => some .null
  | boolean value => some (.boolean value)
  | byte value => some (.byte value.toInt8)
  | char value => some (.char value.toUInt32.toUInt16)
  | short value => some (.short value.toInt16)
  | int value => some (.int value)
  | long value => some (.long value)
  | string value => some (.string value)
  | float bits => some (.float bits)
  | double bits => some (.double bits)

end IrLink
