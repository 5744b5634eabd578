import StubCompiler.Number.Binary32
import StubCompiler.Text.Cut

/-!
# Reading decimal numbers

A decimal number is an optional sign, digits with at most one point among them, and an optional
exponent; there is at least one digit in front of the exponent and one in it.  The words for infinity
and for no number are read in any case.
-/

namespace StubCompiler.Decimal

def value (digits : Text) : Nat :=
  digits.foldl (fun n c => 10 * n + (c.toNat - '0'.toNat)) 0

def sign : Text → Bool × Text
  | '-' :: t => (true, t)
  | '+' :: t => (false, t)
  | t => (false, t)

def digits (t : Text) : Text × Text := t.span Char.isDigit

/-- The exponent that a text, as a whole, stands for: none written is zero. -/
def exponent? : Text → Option Int
  | [] => some 0
  | mark :: t =>
    let (negative, t) := sign t
    if (mark = 'e' || mark = 'E') && t ≠ [] && t.all Char.isDigit then
      some (if negative then -(value t : Int) else value t)
    else none

/-- A number without its sign, as digits and the power of ten that goes with them. -/
def unsigned? (t : Text) : Option (Text × Int) :=
  let (whole, rest) := digits t
  let (part, rest) := match rest with
    | '.' :: rest => digits rest
    | rest => ([], rest)
  if whole ++ part = [] then none
  else (exponent? rest).map fun exponent => (whole ++ part, exponent - part.length)

/-- The binary number nearest to `digits` times ten to the power `exponent`.  Numbers with more than
sixty places before the point, or with none in the first sixty after it, are out of range at once. -/
def toBinary32 (negative : Bool) (digits : Text) (exponent : Int) : Binary32 :=
  let digits := digits.dropWhile (· == '0')
  let places := digits.length + exponent
  if digits = [] || places < -60 then .finite negative 0
  else if 60 < places then .infinite negative
  else .ofQuotient negative (value digits * Nat.pow 10 exponent.toNat)
    (Nat.pow 10 (-exponent).toNat)

def read? (t : Text) : Option Binary32 :=
  let (negative, t) := sign t
  let word := t.map Char.toLower
  if word = "nan" then some .nan
  else if word = "inf" || word = "infinity" then some (.infinite negative)
  else (unsigned? t).map fun (digits, exponent) => toBinary32 negative digits exponent

end StubCompiler.Decimal
