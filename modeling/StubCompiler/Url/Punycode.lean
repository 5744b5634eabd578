import StubCompiler.Text.Cut

/-!
# Encoded labels

A label with characters outside ASCII can be written in ASCII: first its characters of ASCII and a
hyphen, then the other characters in the order of their code points.  Each of these is a number that
says how far to go on from the place and the code point of the one before.  The digits of a number are
weighted by a bias that adapts to the numbers read so far, so that small numbers are short.
-/

namespace StubCompiler.Punycode

/-- The value of a digit in base 36. -/
def digitValue? (c : Char) : Option Nat :=
  if c.isDigit then some (c.toNat - '0'.toNat + 26)
  else if c.isAlpha then some (c.toLower.toNat - 'a'.toNat)
  else none

/-- The least digit at a place that does not end a number; `place` grows by 36. -/
def threshold (bias place : Nat) : Nat :=
  if place ≤ bias then 1 else if bias + 26 ≤ place then 26 else place - bias

/-- The bias that goes with a number of the given size, where `steps` counts up from zero. -/
def settle (steps size : Nat) : Nat :=
  if 455 < size then settle (steps + 36) (size / 35) else steps + 36 * size / (size + 38)
termination_by size
decreasing_by exact Nat.div_lt_self (by omega) (by omega)

/-- The bias after a number, the label now having `length` characters. -/
def adapt (isFirst : Bool) (number length : Nat) : Nat :=
  let size := if isFirst then number / 700 else number / 2
  settle 0 (size + size / length)

structure Decoder where
  label : List Char
  codePoint : Nat := 128
  /-- Where the last character was inserted, and one more. -/
  place : Nat := 0
  bias : Nat := 72
  isFirst : Bool := true
  /-- The part of the next number that has been read. -/
  number : Nat := 0
  /-- What the next digit counts. -/
  weight : Nat := 1
  /-- The place of the next digit in its number. -/
  digitPlace : Nat := 36
deriving Repr

def Decoder.insert (d : Decoder) : Option Decoder :=
  let length := d.label.length + 1
  let codePoint := d.codePoint + (d.place + d.number) / length
  let place := (d.place + d.number) % length
  if codePoint.isValidChar then
    some
      { label := d.label.insertIdx place (Char.ofNat codePoint)
        codePoint
        place := place + 1
        bias := adapt d.isFirst d.number length
        isFirst := false }
  else none

/-- Numbers have 32 bits. -/
def numberLimit : Nat := Nat.pow 2 32

def Decoder.step (d : Decoder) (c : Char) : Option Decoder := do
  let digit ← digitValue? c
  let threshold := threshold d.bias d.digitPlace
  let d := { d with number := d.number + digit * d.weight }
  let weight := d.weight * (36 - threshold)
  if numberLimit ≤ d.place + d.number then none
  else if digit < threshold then d.insert
  else if numberLimit ≤ weight then none
  else return { d with weight, digitPlace := d.digitPlace + 36 }

def decode? (t : Text) : Option Text := do
  let (plain, code) := match Text.cutLast? "-" t with
    | some (c :: before, after) => (c :: before, after)
    | _ => ([], t)
  let d ← code.foldlM Decoder.step { label := plain }
  if d.weight = 1 then some d.label else none

end StubCompiler.Punycode
