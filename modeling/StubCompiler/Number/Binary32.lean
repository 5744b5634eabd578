import StubCompiler.Text.Basic

/-!
# Binary numbers of 32 bits

A finite number of this format is a sign and a magnitude, and every magnitude is a whole multiple of
the least positive one, 2 to the power -149.  In this unit a quotient of natural numbers is rounded
exactly: to the nearest multiple of the gap at its size, a tie going to the even one, and to infinity
beyond the largest finite magnitude.
-/

namespace StubCompiler

/-- A binary number of 32 bits, 24 of them significant. -/
inductive Binary32 where
  | nan
  | infinite (negative : Bool)
  /-- The magnitude counts units of 2 to the power -149. -/
  | finite (negative : Bool) (magnitude : Nat)
deriving DecidableEq, Repr

namespace Binary32

def unitsPerOne : Nat := Nat.pow 2 149

/-- The distance, in units, between neighbours at the size of `magnitude`. -/
def gap (magnitude : Nat) : Nat := Nat.pow 2 (Nat.log2 magnitude - 23)

/-- The least magnitude, in units, that is too large for the format. -/
def overflow : Nat := Nat.pow 2 277

/-- The quotient rounded to the nearest whole number, a tie going to the even one. -/
def roundDiv (numerator denominator : Nat) : Nat :=
  let quotient := numerator / denominator
  let twice := 2 * (numerator % denominator)
  if twice < denominator then quotient
  else if denominator < twice then quotient + 1
  else quotient + quotient % 2

def ofQuotient (negative : Bool) (numerator denominator : Nat) : Binary32 :=
  let units := numerator * unitsPerOne
  let step := gap (units / denominator)
  let magnitude := roundDiv units (denominator * step) * step
  if overflow ≤ magnitude then .infinite negative else .finite negative magnitude

def one : Binary32 := .finite false unitsPerOne

end Binary32

end StubCompiler
