import StubCompiler.Text.Digit
import StubCompiler.Text.Utf8

/-!
# Percent escapes

A byte can be written as a percent sign and two digits in base sixteen.  A character that an address
cannot hold is written as the escapes of its bytes.
-/

namespace StubCompiler.Percent

def escapeByte (b : UInt8) : Text :=
  ['%', (Nat.digitChar (b.toNat / 16)).toUpper, (Nat.digitChar (b.toNat % 16)).toUpper]

/-- A text with the characters outside printable ASCII, and those of `reserved`, as escapes. -/
def escape (reserved t : Text) : Text :=
  t.flatMap fun c =>
    if c.toNat ≤ 0x20 || 0x7F ≤ c.toNat || reserved.contains c then
      (String.utf8EncodeChar c).flatMap escapeByte
    else [c]

def byte? (a b : Char) : Option UInt8 := do
  return UInt8.ofNat (16 * (← Text.hexValue? a) + (← Text.hexValue? b))

/-- The bytes that a text stands for; a percent sign without two digits stands for itself. -/
def bytes : Text → List UInt8
  | [] => []
  | [a] => String.utf8EncodeChar a
  | [a, b] => String.utf8EncodeChar a ++ String.utf8EncodeChar b
  | a :: b :: c :: t =>
    match if a = '%' then byte? b c else none with
    | some byte => byte :: bytes t
    | none => String.utf8EncodeChar a ++ bytes (b :: c :: t)

def decode? (t : Text) : Option Text := Utf8.text? (bytes t)

end StubCompiler.Percent
