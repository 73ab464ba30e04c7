import IrLink.Data
import IrLink.Decimal.Format

/-!
# Numbers of plain data

Which integers stand in plain data for the values of a type, which
floating-point number a number of plain data is, and the text that stands for
one where plain data is written out.
-/

namespace IrLink.Data

/-! ## Integers -/

/-- Integers between two bounds. -/
def integerWithin? (low high : Int) : Data → Option Int
  | integer value => if low ≤ value && value ≤ high then some value else none
  | _ => none

instance : Form Nat where
  toData n := integer n
  ofData?
    | integer (.ofNat n) => some n
    | _ => none

instance : Form Int32 where
  toData n := integer n.toInt
  ofData? data :=
    (integerWithin? Int32.minValue.toInt Int32.maxValue.toInt data).map Int32.ofInt

instance : Form Int64 where
  toData n := integer n.toInt
  ofData? data :=
    (integerWithin? Int64.minValue.toInt Int64.maxValue.toInt data).map Int64.ofInt

instance : Form UInt64 where
  toData n := integer n.toNat
  ofData? data :=
    (integerWithin? 0 (UInt64.size - 1) data).map fun n => UInt64.ofNat n.toNat

/-! ## Floating-point numbers -/

/-- The floating-point number that a number of plain data is. -/
def float? : Data → Option Float
  | integer (.ofNat n) => some (Float.ofNat n)
  | integer (.negSucc n) => some (-Float.ofNat (n + 1))
  | real bits => some (Float.ofBits bits)
  | _ => none

/-- Numbers from a hundred-thousandth up to below `10^16` are written without an
exponent, and whole ones among them with a point and a zero. -/
def layout : Decimal.Layout :=
  ⟨.toEven, true, fun place => -5 ≤ place && place < 16⟩

/-- The text of a number, given by the bits of its 64-bit format.  Only finite
numbers have one. -/
def realText? (bits : UInt64) : Option String :=
  match Decimal.double.meaning bits.toNat with
  | .notANumber | .infinite _ => none
  | .zero _ | .finite _ _ => some (Decimal.double.text layout bits.toNat)

end IrLink.Data
