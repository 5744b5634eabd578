import StubCompiler.Text.Basic

/-!
# Environments

An environment gives values to variables, and a file of `KEY=value` lines can give values to more.  Such
files are read by a package, and the commands take any reader of them.  The one here knows plain lines, of
which quotes, backslashes and dollar signs are no part.
-/

namespace StubCompiler

/-- Variables and their values; the first value of a name counts. -/
abbrev Environment := List (Text × Text)

namespace Environment

def get? (env : Environment) (name : Text) : Option Text := env.lookup name

/-! ### Lines -/

inductive FileLine where
  /-- A blank line or a comment. -/
  | nothing
  | variable (name value : Text)
  /-- A line that cannot be read. -/
  | malformed
deriving DecidableEq, Repr

def isGap (c : Char) : Bool := c = ' ' || c = '\t'

/-- With these characters a value is not plain. -/
def isMark (c : Char) : Bool := ['\'', '"', '\\', '$'].contains c

/-- The plain value after an equals sign; only a comment may follow. -/
def value? (t : Text) : Option Text :=
  let t := t.dropWhile Text.isBlank
  if t.head? = some '#' then some []
  else
    let (value, rest) := t.span fun c => !isGap c
    let rest := rest.dropWhile isGap
    if !value.any isMark && (rest = [] || rest.head? = some '#') then some value else none

def isNameChar (c : Char) : Bool := c.isAlphanum || c = '_' || c = '.'

/-- The name at the start of a text, and what comes after it and the blanks behind it. -/
def name? (t : Text) : Option (Text × Text) :=
  let (name, rest) := t.span isNameChar
  if name.head?.any fun c => c.isAlpha || c = '_' then some (name, rest.dropWhile Text.isBlank)
  else none

/-- The name in front of an equals sign, and what comes behind; the word `export` may come first. -/
def assignment? (t : Text) : Option (Text × Text) := do
  let (name, rest) ← name? t
  let (name, rest) ←
    if name = "export" && rest.head? ≠ some '=' then name? rest else some (name, rest)
  match rest with
  | '=' :: rest => return (name, rest)
  | _ => none

def fileLine (t : Text) : FileLine :=
  let t := t.trim
  if t = [] || t.head? = some '#' then .nothing
  else
    match assignment? t with
    | none => .malformed
    | some (name, rest) =>
      match value? rest with
      | none => .malformed
      | some value => .variable name value

/-- The environment with the variables of a file, given by its lines; a line that is no text or cannot be
read is the last one that counts.  Variables that have a value keep it.  A value with the character NUL
cannot be set, and the attempt ends the program. -/
def withLines (env : Environment) : List (Option Text) → Option Environment
  | [] | none :: _ => some env
  | some line :: lines =>
    match fileLine line with
    | .nothing => withLines env lines
    | .malformed => some env
    | .variable name value =>
      if (env.get? name).isSome then withLines env lines
      else if value.contains '\x00' then none
      else withLines (env ++ [(name, value)]) lines

end Environment

end StubCompiler
