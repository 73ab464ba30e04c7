/-!
# Hexadecimal text

Natural numbers in lower-case base sixteen, with as many digits as the number
needs or padded on the left to a given width, and bytes with two digits for
each.  Reading takes digits of either case, and bytes are not read from a digit
without a partner.
-/

namespace IrLink

namespace Text

/-! ## Numbers -/

/-- The lower-case base-sixteen digits of a number, most significant first. -/
def hexDigits (n : Nat) : List Char :=
  Nat.toDigits 16 n

/-- A number in lower-case base sixteen, without leading zeros. -/
def hex (n : Nat) : String :=
  String.ofList (hexDigits n)

/-- A number in lower-case base sixteen, padded with zeros to `width` digits. -/
def hexPadded (width n : Nat) : String :=
  let digits := hexDigits n
  String.ofList (List.replicate (width - digits.length) '0' ++ digits)

/-- A number in lower-case base sixteen behind the mark `0x`. -/
def hexMarked (n : Nat) : String :=
  "0x" ++ hex n

/-- The value of a base-sixteen digit of either case. -/
def hexDigit? (c : Char) : Option Nat :=
  if c.isDigit then some (c.toNat - '0'.toNat)
  else if 'a' ≤ c && c ≤ 'f' then some (c.toNat - 'a'.toNat + 10)
  else if 'A' ≤ c && c ≤ 'F' then some (c.toNat - 'A'.toNat + 10)
  else none

/-- The number that digits stand for in a base up to sixteen. -/
def digitsValue (base : Nat) (digits : List Char) : Nat :=
  digits.foldl (fun n c => n * base + (hexDigit? c).getD 0) 0

/-- The number that base-sixteen digits stand for; no digits stand for zero. -/
def hexValue? (digits : List Char) : Option Nat :=
  digits.foldlM (fun n c => do return n * 16 + (← hexDigit? c)) 0

end Text

namespace Bytes

/-! ## Bytes -/

/-- Bytes as digits, two for each. -/
def toHex (bytes : List UInt8) : String :=
  String.join (bytes.map fun byte => Text.hexPadded 2 byte.toNat)

/-- The bytes that pairs of digits stand for. -/
def ofHexDigits? : List Char → Option (List UInt8)
  | [] => some []
  | [_] => none
  | high :: low :: rest => do
    let byte := UInt8.ofNat ((← Text.hexDigit? high) * 16 + (← Text.hexDigit? low))
    return byte :: (← ofHexDigits? rest)

/-- The bytes that a hexadecimal text stands for. -/
def ofHex? (s : String) : Option (List UInt8) :=
  ofHexDigits? s.toList

end Bytes

end IrLink
