/-!
# Text

A text is the list of its characters; string literals are read as texts.  This module fixes which
characters count as blank (the Unicode property `White_Space`), how blanks are trimmed from both
ends, and how many bytes a text takes in UTF-8, the unit in which positions are given.
-/

namespace StubCompiler

abbrev Text := List Char

instance : Coe String Text := ⟨String.toList⟩

namespace Text

/-! ### Blank characters -/

/-- The 25 characters with the property `White_Space`. -/
def isBlank (c : Char) : Bool :=
  let n := c.toNat
  (0x09 ≤ n && n ≤ 0x0D) || n == 0x20 || n == 0x85 || n == 0xA0 || n == 0x1680 ||
    (0x2000 ≤ n && n ≤ 0x200A) || n == 0x2028 || n == 0x2029 || n == 0x202F ||
    n == 0x205F || n == 0x3000

/-- A text without its longest tail of characters that satisfy `p`. -/
def dropEnd (p : Char → Bool) (t : Text) : Text :=
  (t.reverse.dropWhile p).reverse

def trimEnd (t : Text) : Text := t.dropEnd isBlank

def trim (t : Text) : Text := trimEnd (t.dropWhile isBlank)

/-- A text is blank if nothing is left of it after trimming. -/
def isBlankText (t : Text) : Bool := t.all isBlank

@[simp] theorem trim_nil : trim [] = [] := rfl

/-! ### Length in bytes -/

/-- The number of bytes of a text in UTF-8. -/
def byteLength : Text → Nat
  | [] => 0
  | c :: t => c.utf8Size + byteLength t

@[simp] theorem byteLength_nil : byteLength [] = 0 := rfl

@[simp] theorem byteLength_cons (c : Char) (t : Text) :
    byteLength (c :: t) = c.utf8Size + byteLength t := rfl

@[simp] theorem byteLength_append (s t : Text) :
    byteLength (s ++ t) = byteLength s + byteLength t := by
  induction s with
  | nil => simp
  | cons c s ih => simp [ih, Nat.add_assoc]

theorem length_le_byteLength (t : Text) : t.length ≤ byteLength t := by
  induction t with
  | nil => exact Nat.le_refl 0
  | cons c t ih =>
    have hc : 0 < c.utf8Size := Char.utf8Size_pos c
    simp only [List.length_cons, byteLength_cons]
    omega

/-- The length in bytes counts the bytes of the string with the same characters. -/
theorem byteLength_eq_utf8ByteSize (t : Text) : byteLength t = (String.ofList t).utf8ByteSize := by
  induction t with
  | nil => rfl
  | cons c t ih => simp [ih, String.ofList_cons]

/-! ### Numbers -/

def ofNat (n : Nat) : Text := Nat.toDigits 10 n

/-! ### Joining -/

def unlines (ts : List Text) : Text := List.intercalate ['\n'] ts

/-- The pieces of a text between line breaks; a text with `n` line breaks has `n + 1`. -/
def lines (t : Text) : List Text := t.splitOn '\n'

theorem unlines_lines (t : Text) : unlines (lines t) = t := List.intercalate_splitOn '\n'

theorem lines_append_newline (s t : Text) : lines (s ++ '\n' :: t) = lines s ++ lines t :=
  List.splitOn_append_cons_self s t

end Text

end StubCompiler
