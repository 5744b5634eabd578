import StubCompiler.Number.Binary32

/-!
# The shortest decimal

A finite binary number is written with the fewest significant digits that still read back as the same
number, and with the nearest of these.  For one digit, two digits and so on the two neighbours of the
number on the decimal grid of that many digits are tried, in whole numbers: a decimal reads back if it
lies between the midpoints to the neighbouring binary numbers, the midpoints included if the number's
own significand is even.  Where a number lies halfway between its neighbours on the grid, the format
says which of them is taken.
-/

namespace StubCompiler

/-- A positive decimal number: its digits, and the power of ten in front of which a point and the
digits stand. -/
structure DecimalDigits where
  digits : Text
  point : Int
deriving DecidableEq, Repr

/-- Which of two decimals is taken that are equally near. -/
inductive Tie where
  /-- The one with the larger magnitude. -/
  | away
  /-- The one whose last digit is even. -/
  | even
deriving DecidableEq, Repr

namespace Shortest

def below (magnitude : Nat) (p : Int) : Bool :=
  magnitude * Nat.pow 10 (-p).toNat < Binary32.unitsPerOne * Nat.pow 10 p.toNat

/-- The least power of ten above the number; all powers that the format needs are tried. -/
def point (magnitude : Nat) : Int :=
  (((List.range 90).map fun n : Nat => (n : Int) - 46).find? (below magnitude)).getD 0

/-- The decimal `c` times ten to the power `k` reads back as the number. -/
def readsBack (magnitude c : Nat) (k : Int) : Bool :=
  let gap := Binary32.gap magnitude
  let isLeast := magnitude == Nat.pow 2 (Nat.log2 magnitude) && 23 < Nat.log2 magnitude
  let lower := (4 * magnitude - if isLeast then gap else 2 * gap) * Nat.pow 10 (-k).toNat
  let upper := (4 * magnitude + 2 * gap) * Nat.pow 10 (-k).toNat
  let decimal := 4 * c * Binary32.unitsPerOne * Nat.pow 10 k.toNat
  if magnitude / gap % 2 = 0 then lower ≤ decimal && decimal ≤ upper
  else lower < decimal && decimal < upper

/-- The quotient of the two numbers lies nearer to the whole number below it than to the one above. -/
def isNearerBelow (tie : Tie) (numerator denominator : Nat) : Bool :=
  let twice := 2 * (numerator % denominator)
  match tie with
  | .away => twice < denominator
  | .even => twice < denominator || (twice = denominator && numerator / denominator % 2 = 0)

/-- The neighbour of the number on the grid of multiples of ten to the power `k` that reads back, the
nearer one if both do. -/
def onGrid? (tie : Tie) (magnitude : Nat) (k : Int) : Option Nat :=
  let numerator := magnitude * Nat.pow 10 (-k).toNat
  let denominator := Binary32.unitsPerOne * Nat.pow 10 k.toNat
  let c := numerator / denominator
  let candidates := if isNearerBelow tie numerator denominator then [c, c + 1] else [c + 1, c]
  candidates.find? fun c => readsBack magnitude c k

/-- The shortest digits of a positive number; nine digits are always enough. -/
def digits (tie : Tie) (magnitude : Nat) : DecimalDigits :=
  let point := point magnitude
  let found := (List.range 9).findSome? fun n =>
    let k := point - (n + 1 : Nat)
    (onGrid? tie magnitude k).map fun c => (c, k)
  let (c, k) := found.getD (0, 0)
  let written := Text.ofNat c
  ⟨written.dropEnd (· == '0'), written.length + k⟩

end Shortest

structure NumberFormat where
  /-- Positional notation is used if the point stands more than `low` places behind the place in front
  of the first digit, a negative count meaning places before it, -/
  low : Int
  /-- and not more than `high` places. -/
  high : Int
  /-- A positive exponent is written with a plus sign. -/
  showsPlus : Bool
  tie : Tie
deriving DecidableEq, Repr

namespace DecimalDigits

def positional (d : DecimalDigits) : Text :=
  if d.point ≤ 0 then "0." ++ List.replicate (-d.point).toNat '0' ++ d.digits
  else if d.point < d.digits.length then
    d.digits.take d.point.toNat ++ "." ++ d.digits.drop d.point.toNat
  else d.digits ++ List.replicate (d.point.toNat - d.digits.length) '0' ++ ".0"

def scientific (showsPlus : Bool) (d : DecimalDigits) : Text :=
  let exponent := d.point - 1
  let part : Text := match d.digits.tail with
    | [] => []
    | tail => "." ++ tail
  let sign : Text := if exponent < 0 then "-" else if showsPlus then "+" else []
  d.digits.take 1 ++ part ++ "e" ++ sign ++ Text.ofNat exponent.natAbs

def print (format : NumberFormat) (d : DecimalDigits) : Text :=
  if format.low < d.point ∧ d.point ≤ format.high then d.positional
  else d.scientific format.showsPlus

end DecimalDigits

namespace Binary32

/-- A finite number in the fewest digits, with at least one on either side of the point where it has a
point. -/
def printFinite (format : NumberFormat) (negative : Bool) (magnitude : Nat) : Text :=
  let sign : Text := if negative then "-" else []
  if magnitude = 0 then sign ++ "0.0"
  else sign ++ (Shortest.digits format.tie magnitude).print format

/-- Numbers shown to the user are positional from 0.0001 up to 16 digits before the point, exponents
have no plus sign, and a tie goes away from zero. -/
def displayFormat : NumberFormat := ⟨-4, 16, false, .away⟩

def display : Binary32 → Text
  | .nan => "NaN"
  | .infinite negative => if negative then "-inf" else "inf"
  | .finite negative magnitude => printFinite displayFormat negative magnitude

end Binary32

end StubCompiler
