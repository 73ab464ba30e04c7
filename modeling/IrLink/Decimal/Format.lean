import IrLink.Decimal.Shortest

/-!
# Floating-point text

The two interchange formats of floating-point numbers, given by their bits,
and their text: the shortest decimal that reads back, written as a layout says,
around a point or with an exponent.
-/

namespace IrLink.Decimal

/-- The layout of a binary interchange format. -/
structure Format where
  /-- Bits of the fraction. -/
  fractionBits : Nat
  /-- Bits of the exponent. -/
  exponentBits : Nat
  deriving DecidableEq, Repr

/-- The format of 32 bits. -/
def single : Format := ⟨23, 8⟩

/-- The format of 64 bits. -/
def double : Format := ⟨52, 11⟩

/-- What the bits of a format mean. -/
inductive Meaning where
  | notANumber
  | infinite (negative : Bool)
  | zero (negative : Bool)
  | finite (negative : Bool) (magnitude : Binary)
  deriving DecidableEq, Repr

/-- Read the bits of a format: sign, biased exponent, fraction. -/
def Format.meaning (format : Format) (bits : Nat) : Meaning :=
  let fraction := bits % Nat.pow 2 format.fractionBits
  let biased := bits / Nat.pow 2 format.fractionBits % Nat.pow 2 format.exponentBits
  let negative := bits / Nat.pow 2 (format.fractionBits + format.exponentBits) % 2 == 1
  let bias : Int := Nat.pow 2 (format.exponentBits - 1) - 1 + format.fractionBits
  if biased == Nat.pow 2 format.exponentBits - 1 then
    if fraction == 0 then .infinite negative else .notANumber
  else if biased == 0 then
    if fraction == 0 then .zero negative
    else .finite negative ⟨fraction, 1 - bias, false⟩
  else
    .finite negative
      ⟨Nat.pow 2 format.fractionBits + fraction, biased - bias, fraction == 0 && 1 < biased⟩

/-- How numbers are written. -/
structure Layout where
  /-- Which of two shortest decimals is written. -/
  tie : Tie
  /-- Whether whole numbers without an exponent end in a point and a zero. -/
  pointsWhole : Bool
  /-- Whether a number is written without an exponent if its first digit stands
  at a place, the ones at 0. -/
  isPositionalAt : Int → Bool

/-- The place of the first digit of a decimal number, that of the ones being
0. -/
def Numeral.leadingPlace (numeral : Numeral) : Int :=
  numeral.exponent + (Nat.toDigits 10 numeral.digits).length - 1

/-- The digits of a decimal number around a point, without an exponent. -/
def Numeral.positional (numeral : Numeral) : String :=
  let digits := Nat.toDigits 10 numeral.digits
  if 0 ≤ numeral.exponent then
    String.ofList (digits ++ List.replicate numeral.exponent.toNat '0')
  else
    let places := (-numeral.exponent).toNat
    let padded := List.replicate (places + 1 - digits.length) '0' ++ digits
    let whole := padded.length - places
    String.ofList (padded.take whole ++ '.' :: padded.drop whole)

/-- The digits of a decimal number behind its first one and a point, if there
are any, and the place of the first one as a signed exponent. -/
def Numeral.scientific (numeral : Numeral) : String :=
  let place := numeral.leadingPlace
  let fraction :=
    match (Nat.toDigits 10 numeral.digits).tail with
    | [] => []
    | digits => '.' :: digits
  String.ofList ((Nat.toDigits 10 numeral.digits).take 1 ++ fraction) ++
    (if place < 0 then "e-" else "e+") ++ toString place.natAbs

/-- The text of a decimal number. -/
def Numeral.text (layout : Layout) (numeral : Numeral) : String :=
  if layout.isPositionalAt numeral.leadingPlace then
    if layout.pointsWhole && 0 ≤ numeral.exponent then numeral.positional ++ ".0"
    else numeral.positional
  else numeral.scientific

/-- A minus sign in front of negative numbers. -/
def signed (negative : Bool) (text : String) : String :=
  if negative then "-" ++ text else text

/-- The text of the number that some bits hold. -/
def Format.text (format : Format) (layout : Layout) (bits : Nat) : String :=
  match format.meaning bits with
  | .notANumber => "NaN"
  | .infinite negative => signed negative "inf"
  | .zero negative => signed negative (Numeral.text layout ⟨0, 0⟩)
  | .finite negative magnitude =>
    signed negative ((shortest layout.tie magnitude).text layout)

end IrLink.Decimal
