import StubCompiler.Url.Domain
import StubCompiler.Url.Percent

/-!
# Hosts

A host is named by a domain name or by a number.  A number of 32 bits is written in up to four parts,
the last of which counts for all the bytes that are left; a name whose last label is a number must be
such a number.  A number of 128 bits is written in square brackets, in eight units of 16 bits, and two
colons stand for one or more units of zero.
-/

namespace StubCompiler

inductive ServiceHost where
  | domain (name : Text)
  | address32 (number : Nat)
  | address128 (units : List Nat)
deriving DecidableEq, Repr

namespace ServiceHost

/-! ### Numbers of 32 bits -/

/-- A part of a number: octal after a zero, hexadecimal after a zero and an `x`, else decimal. -/
def part? : Text → Option Nat
  | [] => none
  | '0' :: 'x' :: digits => Text.numeral? 16 digits
  | '0' :: digits => Text.numeral? 8 digits
  | digits => Text.numeral? 10 digits

/-- The labels of a name without an empty one at the end. -/
def labels (name : Text) : List Text :=
  match (name.splitOn '.').reverse with
  | [] :: label :: before => (label :: before).reverse
  | labels => labels.reverse

def endsInNumber (name : Text) : Bool :=
  match (labels name).getLast? with
  | some label => (label ≠ [] && label.all Char.isDigit) || (part? label).isSome
  | none => false

/-- The number that parts stand for: each but the last is a byte. -/
def ofParts? : List Nat → Option Nat
  | [] => none
  | parts@(_ :: _) =>
    let bytes := parts.dropLast
    let last := parts.getLastD 0
    let rest := 4 - bytes.length
    if bytes.length < 4 && bytes.all (· < 256) && last < Nat.pow 256 rest then
      some (bytes.foldl (fun n b => 256 * n + b) 0 * Nat.pow 256 rest + last)
    else none

def address32? (name : Text) : Option Nat := do
  ofParts? (← (labels name).mapM part?)

/-! ### Numbers of 128 bits -/

def unit? (t : Text) : Option Nat :=
  if 1 ≤ t.length && t.length ≤ 4 then Text.numeral? 16 t else none

/-- A byte in decimal digits, without a zero in front. -/
def byte? (t : Text) : Option Nat :=
  if t = [] || (t.head? = some '0' && 1 < t.length) then none
  else (Text.numeral? 10 t).filter (· < 256)

/-- Two units as four bytes with points between them. -/
def twoUnits? (t : Text) : Option (List Nat) := do
  match ← (t.splitOn '.').mapM byte? with
  | [a, b, c, d] => return [256 * a + b, 256 * c + d]
  | _ => none

/-- The units in the pieces between colons; the last piece can be two. -/
def units? : List Text → Option (List Nat)
  | [] => some []
  | [last] => ((unit? last).map fun unit => [unit]).or (twoUnits? last)
  | piece :: pieces => do return (← unit? piece) :: (← units? pieces)

/-- The units on one side of two colons. -/
def side (t : Text) : List Text := if t = [] then [] else t.splitOn ':'

def address128? (t : Text) : Option (List Nat) := do
  match Text.cut? "::" t with
  | none => (units? (t.splitOn ':')).filter fun units => units.length = 8
  | some (left, right) =>
    let left ← (side left).mapM unit?
    let right ← units? (side right)
    if left.length + right.length < 8 then
      some (left ++ List.replicate (8 - left.length - right.length) 0 ++ right)
    else none

/-! ### Hosts -/

/-- The host that a text without brackets stands for. -/
def named? (t : Text) : Option ServiceHost := do
  let name ← Domain.read? (← Percent.decode? t)
  if endsInNumber name then (address32? name).map .address32 else return .domain name

/-- The host at the head of an authority, and what follows it. -/
def cut? : Text → Option (ServiceHost × Text)
  | '[' :: t => do
    let (address, rest) ← Text.cutAt? ']' t
    return (.address128 (← address128? address), rest)
  | t => do
    let (name, rest) := t.span (· != ':')
    return (← named? name, rest)

end ServiceHost

end StubCompiler
