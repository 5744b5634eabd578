import StubCompiler.Json.Basic
import StubCompiler.Text.Cut
import StubCompiler.Text.Digit

/-!
# Tokens of JSON

A JSON text is cut into brackets, commas, colons, and the values that hold no others.  White space, of
which JSON knows four characters, separates tokens.  Strings are read as UTF-16 code units first,
because an escape names a unit and a character may take two of them.
-/

namespace StubCompiler

inductive JsonToken where
  | openArray
  | closeArray
  | openObject
  | closeObject
  | comma
  | colon
  | string (value : JsonString)
  /-- A number, a truth value or null. -/
  | literal (value : Json)

namespace JsonToken

/-! ### Strings -/

def unit? (a b c d : Char) : Option Nat := Text.numeral? 16 [a, b, c, d]

def escaped? (c : Char) : Option Char :=
  match c with
  | '\"' | '\\' | '/' => some c
  | 'b' => some '\x08'
  | 'f' => some '\x0c'
  | 'n' => some '\n'
  | 'r' => some '\r'
  | 't' => some '\t'
  | _ => none

/-- Reads a string up to its closing quotation mark: the numbers that its characters and escapes stand
for, and the text after the mark.  A character below a space must be escaped. -/
def stringBody : Text → Option (List Nat × Text)
  | [] => none
  | '\"' :: t => some ([], t)
  | '\\' :: 'u' :: a :: b :: c :: d :: t => do
    let unit ← unit? a b c d
    let (units, rest) ← stringBody t
    return (unit :: units, rest)
  | '\\' :: c :: t => do
    let c ← escaped? c
    let (units, rest) ← stringBody t
    return (c.toNat :: units, rest)
  | c :: t =>
    if c = '\\' || c.toNat < 0x20 then none
    else (stringBody t).map fun (units, rest) => (c.toNat :: units, rest)

/-- The text that numbers stand for, two halves of a surrogate pair being one character; a lone half
stands for none. -/
def joinUnits : List Nat → JsonString
  | [] => some []
  | [n] => if 0xD800 ≤ n ∧ n < 0xE000 then none else some [Char.ofNat n]
  | high :: low :: units =>
    if 0xD800 ≤ high ∧ high < 0xDC00 then
      if 0xDC00 ≤ low ∧ low < 0xE000 then
        (joinUnits units).map (Char.ofNat (0x10000 + (high - 0xD800) * 0x400 + (low - 0xDC00)) :: ·)
      else none
    else if 0xDC00 ≤ high ∧ high < 0xE000 then none
    else (joinUnits (low :: units)).map (Char.ofNat high :: ·)

/-! ### Numbers and words -/

def isNumeric (c : Char) : Bool := c.isDigit || ['+', '-', '.', 'e', 'E'].contains c

/-- An exponent: a sign may precede its digits, of which there is at least one. -/
def isExponent : Text → Bool
  | '+' :: t | '-' :: t => t ≠ [] && t.all Char.isDigit
  | t => t ≠ [] && t.all Char.isDigit

def isFraction (t : Text) : Bool :=
  let exponent (t : Text) : Bool := match t with
    | [] => true
    | mark :: t => (mark = 'e' || mark = 'E') && isExponent t
  match t with
  | '.' :: t => (t.takeWhile Char.isDigit) ≠ [] && exponent (t.dropWhile Char.isDigit)
  | t => exponent t

/-- The text spells a number: no plus in front, and no zero in front of other digits. -/
def isNumber (t : Text) : Bool :=
  let t := match t with
    | '-' :: t => t
    | t => t
  match t with
  | '0' :: t => isFraction t
  | c :: t => c.isDigit && isFraction (t.dropWhile Char.isDigit)
  | [] => false

def word? (t : Text) : Option Json :=
  if t = "true" then some (.bool true)
  else if t = "false" then some (.bool false)
  else if t = "null" then some .null
  else none

def isSpace (c : Char) : Bool := c = ' ' || c = '\t' || c = '\n' || c = '\r'

/-! ### Cutting a text into tokens -/

/-- The token at the head of a text that starts with `c`, and the text after it. -/
def next? (c : Char) (t : Text) : Option (JsonToken × Text) :=
  match c with
  | '[' => some (.openArray, t)
  | ']' => some (.closeArray, t)
  | '\x7b' => some (.openObject, t)
  | '\x7d' => some (.closeObject, t)
  | ',' => some (.comma, t)
  | ':' => some (.colon, t)
  | '\"' => (stringBody t).map fun (units, rest) => (.string (joinUnits units), rest)
  | c =>
    if isNumeric c then
      let spelling := c :: t.takeWhile isNumeric
      if isNumber spelling then some (.literal (.number spelling), t.dropWhile isNumeric) else none
    else
      (word? (c :: t.takeWhile Char.isAlpha)).map fun value =>
        (.literal value, t.dropWhile Char.isAlpha)

theorem length_dropWhile_le (p : Char → Bool) (t : Text) : (t.dropWhile p).length ≤ t.length :=
  (List.dropWhile_sublist p).length_le

theorem length_lt_of_stringBody {t rest : Text} {units : List Nat}
    (h : stringBody t = some (units, rest)) : rest.length < t.length := by
  fun_induction stringBody t generalizing units with
  | case1 => simp at h
  | case2 t =>
    simp only [Option.some.injEq, Prod.mk.injEq] at h
    obtain ⟨_, rfl⟩ := h
    exact Nat.lt_succ_self _
  | case3 a b c d t ih =>
    simp only [Option.pure_def, Option.bind_eq_bind, Option.bind_eq_some_iff, Option.some.injEq,
      Prod.mk.injEq, Prod.exists] at h
    obtain ⟨_, _, us, r, hr, _, rfl⟩ := h
    have := ih hr
    simp only [List.length_cons]
    omega
  | case4 c t _ ih =>
    simp only [Option.pure_def, Option.bind_eq_bind, Option.bind_eq_some_iff, Option.some.injEq,
      Prod.mk.injEq, Prod.exists] at h
    obtain ⟨_, _, us, r, hr, _, rfl⟩ := h
    have := ih hr
    simp only [List.length_cons]
    omega
  | case5 => simp at h
  | case6 c t _ _ _ _ ih =>
    simp only [Option.map_eq_some_iff, Prod.mk.injEq, Prod.exists] at h
    obtain ⟨us, r, hr, _, rfl⟩ := h
    have := ih hr
    simp only [List.length_cons]
    omega

theorem length_lt_of_next? {c : Char} {t rest : Text} {token : JsonToken}
    (h : next? c t = some (token, rest)) : rest.length < t.length + 1 := by
  unfold next? at h
  split at h
  case h_7 =>
    simp only [Option.map_eq_some_iff, Prod.exists, Prod.mk.injEq] at h
    obtain ⟨us, r, hr, _, rfl⟩ := h
    have := length_lt_of_stringBody hr
    omega
  case h_8 =>
    have hn := length_dropWhile_le isNumeric t
    have ha := length_dropWhile_le Char.isAlpha t
    split at h
    · dsimp only at h
      split at h
      · injection h with h
        injection h with _ h
        subst h
        omega
      · simp at h
    · simp only [Option.map_eq_some_iff, Prod.mk.injEq] at h
      obtain ⟨_, _, _, rfl⟩ := h
      omega
  all_goals
    injection h with h
    injection h with _ h
    subst h
    omega

def ofText? (t : Text) : Option (List JsonToken) :=
  match t with
  | [] => some []
  | c :: t =>
    if isSpace c then ofText? t
    else
      match _h : next? c t with
      | none => none
      | some (token, rest) => (ofText? rest).map (token :: ·)
termination_by t.length
decreasing_by
  · simp
  · exact length_lt_of_next? _h

end JsonToken

end StubCompiler
