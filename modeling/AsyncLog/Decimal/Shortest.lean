/-!
# Shortest decimals

The decimal with the fewest digits that still tells a binary number from its
neighbours.  A binary number owns an interval of real numbers that round to it;
the grid of multiples of a power of ten is made finer until one of the two grid
points around the number lies in that interval.
-/

namespace AsyncLog

/-- A number `digits` times the `exponent`-th power of ten. -/
structure Decimal where
  digits : Nat
  exponent : Int
  deriving DecidableEq, Repr

namespace Decimal

/-- The interval of the numbers that round to a positive number, all three in
units of a power of two.  The ends belong to it if it is closed. -/
structure Interval where
  low : Nat
  value : Nat
  high : Nat
  exponent : Int
  closed : Bool

/-- What a unit of an interval is multiplied with, to count it in steps of a grid. -/
def unitNumerator (i : Interval) (grid : Int) : Nat :=
  Nat.pow 2 i.exponent.toNat * Nat.pow 10 (-grid).toNat

def unitDenominator (i : Interval) (grid : Int) : Nat :=
  Nat.pow 2 (-i.exponent).toNat * Nat.pow 10 grid.toNat

def Interval.contains (i : Interval) (grid : Int) (point : Nat) : Bool :=
  let scaled := point * unitDenominator i grid
  let low := i.low * unitNumerator i grid
  let high := i.high * unitNumerator i grid
  if i.closed then low ≤ scaled && scaled ≤ high else low < scaled && scaled < high

/-- The grid point in the interval that is nearest to the value; the upper one
if two are equally near. -/
def Interval.nearest? (i : Interval) (grid : Int) : Option Nat :=
  let scaled := i.value * unitNumerator i grid
  let step := unitDenominator i grid
  let below := scaled / step
  let rest := scaled % step
  match i.contains grid below, i.contains grid (below + 1) with
  | true, true => some (if 2 * rest < step then below else below + 1)
  | true, false => some below
  | false, true => some (below + 1)
  | false, false => none

def Interval.search (i : Interval) (grid : Int) : Nat -> Option Decimal
  | 0 => none
  | fuel + 1 =>
      match i.nearest? grid with
      | some digits => some ⟨digits, grid⟩
      | none => i.search (grid - 1) fuel

def coarsestGrid : Int := 39

def gridCount : Nat := 100

def Interval.shortest (i : Interval) : Decimal :=
  (i.search coarsestGrid gridCount).getD ⟨0, 0⟩

/-!
## Single precision

The value is counted in quarters of the distance to its upper neighbour.
-/

def Interval.ofBinary32 (biased fraction : Nat) : Interval :=
  let mantissa := if biased = 0 then fraction else fraction + 0x800000
  let exponent : Int := if biased = 0 then -149 else (biased : Int) - 150
  { low := if fraction = 0 ∧ 1 < biased then 4 * mantissa - 1 else 4 * mantissa - 2
    value := 4 * mantissa
    high := 4 * mantissa + 2
    exponent := exponent - 2
    closed := mantissa % 2 == 0 }

/-!
## Layout
-/

/-- The exponents of the leading digit for which a number is written without an
exponent: from the first to just below the second. -/
structure Layout where
  leastPositional : Int
  leastScientific : Int

def digitChars (d : Decimal) : List Char :=
  Nat.toDigits 10 d.digits

def leadingExponent (d : Decimal) : Int :=
  d.exponent + d.digitChars.length - 1

def positional (d : Decimal) : List Char :=
  let cs := d.digitChars
  let places := (-d.exponent).toNat
  let padded := List.replicate (places + 1 - cs.length) '0' ++ cs ++
    List.replicate d.exponent.toNat '0'
  let whole := padded.take (padded.length - places)
  let fraction := padded.drop (padded.length - places)
  whole ++ ['.'] ++ (if fraction.isEmpty then ['0'] else fraction)

def scientific (d : Decimal) : List Char :=
  let mantissa :=
    match d.digitChars with
    | first :: second :: rest => first :: '.' :: second :: rest
    | cs => cs
  mantissa ++ 'e' :: (toString d.leadingExponent).toList

def Layout.write (l : Layout) (d : Decimal) : List Char :=
  if l.leastPositional ≤ d.leadingExponent ∧ d.leadingExponent < l.leastScientific then
    d.positional
  else d.scientific

end Decimal

end AsyncLog
