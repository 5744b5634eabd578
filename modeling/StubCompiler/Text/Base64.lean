import StubCompiler.Text.Basic

/-!
# Base 64

Bytes as characters: three bytes make four digits of six bits each, and one or two bytes that are left
at the end are filled up with equals signs.
-/

namespace StubCompiler.Base64

def alphabet : Text := "ABCDEFGHIJKLMNOPQRSTUVWXYZabcdefghijklmnopqrstuvwxyz0123456789+/"

def digit (n : Nat) : Char := alphabet.getD (n % 64) '='

def encode : List UInt8 → Text
  | [] => []
  | [a] =>
    let bits := a.toNat * 16
    [digit (bits / 64), digit bits, '=', '=']
  | [a, b] =>
    let bits := (a.toNat * 256 + b.toNat) * 4
    [digit (bits / 4096), digit (bits / 64), digit bits, '=']
  | a :: b :: c :: bytes =>
    let bits := (a.toNat * 256 + b.toNat) * 256 + c.toNat
    digit (bits / 262144) :: digit (bits / 4096) :: digit (bits / 64) :: digit bits :: encode bytes

end StubCompiler.Base64
