import StubCompiler.Text.Basic

/-!
# Reading UTF-8

Bytes are read as characters from the left.  Where they are not UTF-8, the longest start of a character
that stands there counts as one failure, and reading goes on behind it.
-/

namespace StubCompiler.Utf8

/-- What the first byte of a character says: the ranges of the bytes that follow, and the leading bits
of the code point. -/
def lead? (b : Nat) : Option (List (Nat × Nat) × Nat) :=
  let tail := (0x80, 0xBF)
  if b ≤ 0x7F then some ([], b)
  else if b < 0xC2 then none
  else if b ≤ 0xDF then some ([tail], b - 0xC0)
  else if b = 0xE0 then some ([(0xA0, 0xBF), tail], 0)
  else if b = 0xED then some ([(0x80, 0x9F), tail], 0xD)
  else if b ≤ 0xEF then some ([tail, tail], b - 0xE0)
  else if b = 0xF0 then some ([(0x90, 0xBF), tail, tail], 0)
  else if b ≤ 0xF3 then some ([tail, tail, tail], b - 0xF0)
  else if b = 0xF4 then some ([(0x80, 0x8F), tail, tail], 4)
  else none

/-- Takes the bytes that must follow, as long as each is in its range. -/
def takeTail : List (Nat × Nat) → Nat → List UInt8 → Option Nat × List UInt8
  | [], value, bytes => (some value, bytes)
  | _ :: _, _, [] => (none, [])
  | (low, high) :: ranges, value, b :: bytes =>
    if low ≤ b.toNat ∧ b.toNat ≤ high then takeTail ranges (value * 64 + b.toNat % 64) bytes
    else (none, b :: bytes)

theorem length_takeTail_le (ranges : List (Nat × Nat)) (value : Nat) (bytes : List UInt8) :
    (takeTail ranges value bytes).2.length ≤ bytes.length := by
  fun_induction takeTail ranges value bytes with
  | case1 => exact Nat.le_refl _
  | case2 => exact Nat.le_refl _
  | case3 _ _ _ _ _ _ _ ih =>
    rw [List.length_cons]
    omega
  | case4 => exact Nat.le_refl _

/-- The characters that bytes stand for, and a gap for each failure. -/
def decode : List UInt8 → List (Option Char)
  | [] => []
  | b :: bytes =>
    match lead? b.toNat with
    | none => none :: decode bytes
    | some (ranges, value) =>
      let taken := takeTail ranges value bytes
      taken.1.map Char.ofNat :: decode taken.2
termination_by bytes => bytes.length
decreasing_by
  · simp
  · exact Nat.lt_succ_of_le (length_takeTail_le ranges value bytes)

/-- The text that bytes stand for, if all of them do. -/
def text? (bytes : List UInt8) : Option Text := (decode bytes).mapM id

end StubCompiler.Utf8
