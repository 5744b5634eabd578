import StubCompiler.Text.Basic

/-!
# JSON values

A JSON text is read into a tree.  Numbers keep their spelling, objects keep the order of their members
and all members of one name.  A string may spell half of a surrogate pair, which no text can hold; such a
string has no value, and it does no harm where nobody asks for its value.
-/

namespace StubCompiler

/-- The text that a JSON string stands for, if there is one. -/
abbrev JsonString := Option Text

inductive Json where
  | null
  | bool (value : Bool)
  | number (spelling : Text)
  | string (value : JsonString)
  | array (items : List Json)
  | object (members : List (JsonString × Json))

namespace Json

/-! ### Writing -/

def hexDigit (n : Nat) : Char := Nat.digitChar (n % 16)

/-- A character inside a JSON string: the quotation mark, the backslash and the characters below a
space are escaped. -/
def escape (c : Char) : Text :=
  match c with
  | '\"' => "\\\""
  | '\\' => "\\\\"
  | '\x08' => "\\b"
  | '\t' => "\\t"
  | '\n' => "\\n"
  | '\x0c' => "\\f"
  | '\r' => "\\r"
  | c => if c.toNat < 0x20 then "\\u00" ++ [hexDigit (c.toNat / 16), hexDigit c.toNat] else [c]

def quote (t : Text) : Text := "\"" ++ t.flatMap escape ++ "\""

end Json

end StubCompiler
