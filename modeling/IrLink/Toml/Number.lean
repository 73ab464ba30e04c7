import IrLink.Bytes.Hex
import IrLink.Text.Reading
import IrLink.Toml.Value

/-!
# Numbers of TOML

Integers fit in 64 bits, with a sign in base ten and without one in the bases
sixteen, eight and two.  Other numbers have a fraction or an exponent.  Single
underscores may stand between digits.
-/

namespace IrLink.Toml

open Text Reading

/-- Take digits of a class, with single underscores between them. -/
def grouped (admits : Char → Bool) : Reading (List Char) := do
  let head ← one admits
  return head :: (← many (one admits <|> (char '_' *> one admits)))

/-- Take a sign, if there is one, and say whether the number is negative. -/
def sign : Reading Bool :=
  (char '+' *> return false) <|> (char '-' *> return true) <|> return false

/-- Take digits of which the first is zero only if it is all. -/
def plainDigits : Reading (List Char) :=
  (return [← one fun c => c == '0']) <|> grouped Char.isDigit

/-! ## Integers -/

/-- The integer, if it fits in 64 bits. -/
def fitting? (n : Int) : Option Int :=
  if Int64.minValue.toInt ≤ n && n ≤ Int64.maxValue.toInt then some n else none

/-- Take an integer behind the mark of its base. -/
def marked (mark : String) (base : Nat) : Reading Int := do
  word mark
  let digits ← grouped fun c => (hexDigit? c).any fun n => n < base
  guarded (fitting? (digitsValue base digits))

/-- Take an integer in base ten. -/
def decimalInteger : Reading Int := do
  let negative ← sign
  let n := digitsValue 10 (← plainDigits)
  guarded (fitting? (if negative then -n else n))

/-- Take an integer. -/
def integer : Reading Int :=
  marked "0x" 16 <|> marked "0o" 8 <|> marked "0b" 2 <|> decimalInteger

/-! ## Numbers with a fraction or an exponent -/

/-- Take the digits of a fraction. -/
def fraction : Reading (List Char) :=
  char '.' *> grouped Char.isDigit

/-- Take an exponent. -/
def exponent : Reading Int := do
  discard (one fun c => c == 'e' || c == 'E')
  let negative ← sign
  let n := digitsValue 10 (← grouped Char.isDigit)
  return if negative then -n else n

/-- The least number that is rounded to infinity in the 64-bit format. -/
def infinityThreshold : Nat :=
  Nat.pow 2 1024 - Nat.pow 2 970

/-- Whether `digits * 10 ^ scale` is rounded to infinity in the 64-bit format.
The threshold has 309 digits, so other lengths decide by themselves. -/
def overflows (digits : Nat) (scale : Int) : Bool :=
  let length : Int := (Nat.toDigits 10 digits).length + scale
  digits != 0 && (309 < length || (length == 309 &&
    infinityThreshold * Nat.pow 10 (-scale).toNat ≤ digits * Nat.pow 10 scale.toNat))

/-- Take a number with a fraction or an exponent.  It may be too small for the
64-bit format, but not too large. -/
def decimal : Reading Real := do
  let negative ← sign
  let whole ← plainDigits
  let (part, power) ←
    (do return (← fraction, (← optional exponent).getD 0)) <|> (do return ([], ← exponent))
  let digits := digitsValue 10 (whole ++ part)
  let scale := power - part.length
  guarded (if !negative && overflows digits scale then none
    else some (.decimal negative digits scale))

/-- Take the name of something that is no finite number. -/
def special : Reading Real := do
  let negative ← sign
  (word "inf" *> return .infinity negative) <|> (word "nan" *> return .notANumber negative)

/-- Take a number that is no integer. -/
def real : Reading Real :=
  decimal <|> special

end IrLink.Toml
