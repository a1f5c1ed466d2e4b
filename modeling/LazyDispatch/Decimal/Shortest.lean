/-! Shortest decimals. A binary fraction stands for every real that rounds to it; its shortest
decimal is the point of the coarsest decimal grid that meets those reals, the nearer of two. -/

namespace LazyDispatch.Decimal

structure Scaled where
  digits : Nat
  place : Int
  deriving DecidableEq, Repr

structure Interval where
  low : Nat
  middle : Nat
  high : Nat
  num : Nat
  den : Nat
  closed : Bool

namespace Interval

/-- The reals that round to `mantissa * 2 ^ power`, where the next smaller number is `1` or, below
a power of two, half a unit away. An even mantissa takes the ends too. -/
def ofBinary (mantissa : Nat) (power : Int) (narrow : Bool) : Interval where
  low := 4 * mantissa - if narrow then 1 else 2
  middle := 4 * mantissa
  high := 4 * mantissa + 2
  num := Nat.pow 2 power.toNat
  den := 4 * Nat.pow 2 (-power).toNat
  closed := mantissa % 2 == 0

def sides (i : Interval) (point : Nat) (place : Int) (units : Nat) : Nat × Nat :=
  (point * Nat.pow 10 place.toNat * i.den, units * i.num * Nat.pow 10 (-place).toNat)

def meets (i : Interval) (place : Int) (point : Nat) : Bool :=
  let (point₁, low) := i.sides point place i.low
  let (point₂, high) := i.sides point place i.high
  if i.closed then low ≤ point₁ && point₂ ≤ high else low < point₁ && point₂ < high

def floorAt (i : Interval) (place : Int) : Nat :=
  i.middle * i.num * Nat.pow 10 (-place).toNat / (i.den * Nat.pow 10 place.toNat)

def nearerBelow (i : Interval) (place : Int) (below : Nat) : Bool :=
  let (points, middles) := i.sides (2 * below + 1) place (2 * i.middle)
  middles < points

/-- A grid point of the interval, if there is one. Of two the nearer is taken, of two equally near
the upper. -/
def pointAt (i : Interval) (place : Int) : Option Nat :=
  let below := i.floorAt place
  match i.meets place below, i.meets place (below + 1) with
  | true, true => some (if i.nearerBelow place below then below else below + 1)
  | true, false => some below
  | false, true => some (below + 1)
  | false, false => none

def search (i : Interval) : Nat → Int → Scaled
  | 0, place => ⟨i.floorAt place, place⟩
  | grids + 1, place =>
    match i.pointAt place with
    | some point => ⟨point, place⟩
    | none => search i grids (place - 1)

end Interval

def topPlace (bits : Int) : Int := bits * 30103 / 100000 + 2

/-- The shortest decimal that rounds to `mantissa * 2 ^ power`. Seventeen digits always suffice, and
the search starts at most four places above the first. -/
def shortest (mantissa : Nat) (power : Int) (narrow : Bool) : Scaled :=
  (Interval.ofBinary mantissa power narrow).search 22 (topPlace (Nat.log2 mantissa + 1 + power))

def positional (number : Scaled) : String :=
  let digits := toString number.digits
  let fraction := (-number.place).toNat
  if fraction = 0 then digits ++ String.ofList (List.replicate number.place.toNat '0')
  else
    let letters := List.replicate (fraction + 1 - digits.length) '0' ++ digits.toList
    let whole := letters.length - fraction
    String.ofList (letters.take whole ++ '.' :: letters.drop whole)

def ofFloat (f : Float) : String :=
  let bits := f.toBits.toNat
  let exponent : Nat := bits / Nat.pow 2 52 % 2048
  let fraction : Nat := bits % Nat.pow 2 52
  let minus := if bits / Nat.pow 2 63 = 1 then "-" else ""
  if exponent = 2047 then if fraction = 0 then minus ++ "inf" else "NaN"
  else if exponent = 0 then
    if fraction = 0 then minus ++ "0" else minus ++ positional (shortest fraction (-1074) false)
  else
    minus ++ positional
      (shortest (Nat.pow 2 52 + fraction) ((exponent : Int) - 1075) (fraction == 0 && exponent > 1))

end LazyDispatch.Decimal
