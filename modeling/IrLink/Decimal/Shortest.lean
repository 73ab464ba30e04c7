/-!
# Shortest decimals

A binary floating-point number `m · 2^e` is the nearest such number for a
whole interval of reals.  `shortest` finds the decimal `d · 10^p` with the
fewest digits in that interval, the nearest of those to the number itself; a
rule for ties says which of two that are equally near it takes.

Every decimal with a last digit at `10^p` lies on the grid of multiples of
`10^p`, and if any point of a grid lies in the interval, so does one of the two
neighbours of the number on that grid.  So the search goes from coarse grids
to fine ones and tests two points of each.
-/

namespace IrLink.Decimal

/-- A finite number above zero, `mantissa · 2^exponent`, as one of its format:
the gap below it is half as wide where `isLowestOfBinade` holds. -/
structure Binary where
  mantissa : Nat
  exponent : Int
  isLowestOfBinade : Bool
  deriving DecidableEq, Repr

/-- A decimal number `digits · 10^exponent`. -/
structure Numeral where
  digits : Nat
  exponent : Int
  deriving DecidableEq, Repr

/-- Which of two decimals that are equally near to a number is taken. -/
inductive Tie where
  | toLarger
  /-- The one with an even last digit. -/
  | toEven
  deriving DecidableEq, Repr

/-- Whole numbers in the proportion of a binary number, the ends of the
interval around it, and the unit of the grid `10^place`. -/
structure Scaled where
  value : Nat
  low : Nat
  high : Nat
  unit : Nat
  deriving DecidableEq, Repr

/-- A binary number and its interval measured against the grid `10^place`.
All four numbers carry the factor 4, so that the ends are whole. -/
def scale (x : Binary) (place : Int) : Scaled :=
  let factor := Nat.pow 2 x.exponent.toNat * Nat.pow 10 (-place).toNat
  let below := if x.isLowestOfBinade then 1 else 2
  { value := 4 * x.mantissa * factor
    low := (4 * x.mantissa - below) * factor
    high := (4 * x.mantissa + 2) * factor
    unit := 4 * Nat.pow 2 (-x.exponent).toNat * Nat.pow 10 place.toNat }

/-- Whether a multiple of the grid's unit rounds to the number.  The ends of
the interval do so for numbers with an even mantissa. -/
def Scaled.holds (s : Scaled) (evenMantissa : Bool) (count : Nat) : Bool :=
  let point := count * s.unit
  if evenMantissa then s.low ≤ point && point ≤ s.high
  else s.low < point && point < s.high

/-- The neighbour of the number on a grid that rounds to it, the nearer one
if both do. -/
def onGrid? (tie : Tie) (x : Binary) (place : Int) : Option Numeral :=
  let s := scale x place
  let even := x.mantissa % 2 == 0
  let below := s.value / s.unit
  let above := below + 1
  match s.holds even below, s.holds even above with
  | false, false => none
  | true, false => some ⟨below, place⟩
  | false, true => some ⟨above, place⟩
  | true, true =>
    match compare (2 * (s.value % s.unit)) s.unit, tie with
    | .lt, _ => some ⟨below, place⟩
    | .gt, _ | .eq, .toLarger => some ⟨above, place⟩
    | .eq, .toEven => some ⟨if below % 2 == 0 then below else above, place⟩

/-- A power of ten above every decimal that rounds to the number: three tenths
of the binary logarithm, rounded up. -/
def placeAbove (x : Binary) : Int :=
  ((Nat.log2 x.mantissa : Int) + 2 + x.exponent) * 30103 / 100000 + 2

/-- The first hit on the grids from `place` downwards. -/
def search (tie : Tie) (x : Binary) : Nat → Int → Numeral
  | 0, place => ⟨0, place⟩
  | fuel + 1, place =>
    match onGrid? tie x place with
    | some numeral => numeral
    | none => search tie x fuel (place - 1)

/-- The decimal of fewest digits that rounds to a number, the nearest of those.
Seventeen digits tell the numbers of both formats apart, and the search begins
at most four places too high. -/
def shortest (tie : Tie) (x : Binary) : Numeral :=
  search tie x 24 (placeAbove x)

end IrLink.Decimal
