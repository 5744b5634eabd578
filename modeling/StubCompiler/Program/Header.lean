import StubCompiler.Program.Basic
import StubCompiler.Program.Fault

/-!
# Function headers

The header of a function is one line, `function name(a: A, b: B): R {`, possibly with `pinned` in
front.  This module takes the name, the arguments and the return type out of it, and the comment out
of the lines of the body.  Nothing is required of the text around these parts.
-/

namespace StubCompiler.Header

def keyword : Text := "function "

/-- The text between the keyword and the next opening parenthesis, unless it is blank. -/
def name? (header : Text) : Option Text := do
  let (_, rest) ← Text.cut? keyword header
  let (name, _) ← Text.cutAt? '(' rest
  if Text.trim name = [] then none else some (Text.trim name)

/-- A line split around its argument list: it reads `before ++ "(" ++ list ++ ")" ++ after`. -/
structure ArgumentList where
  before : Text
  list : Text
  after : Text
deriving DecidableEq, Repr

def ArgumentList.closePosition (a : ArgumentList) : Nat :=
  a.before.byteLength + 1 + a.list.byteLength

/-- Cuts at the parenthesis that closes the one opened just before the text, when `depth` more are
open already. -/
def cutAtClose? : Nat → Text → Option (Text × Text)
  | _, [] => none
  | 0, ')' :: t => some ([], t)
  | depth + 1, ')' :: t => (cutAtClose? depth t).map fun (list, after) => (')' :: list, after)
  | depth, '(' :: t => (cutAtClose? (depth + 1) t).map fun (list, after) => ('(' :: list, after)
  | depth, c :: t => (cutAtClose? depth t).map fun (list, after) => (c :: list, after)

/-- The argument list opens at the first parenthesis from the keyword on and runs to the parenthesis
that matches it. -/
def argumentList? (header : Text) : Option ArgumentList := do
  let (before, rest) ← Text.cut? keyword header
  let (skipped, inner) ← Text.cutAt? '(' (keyword ++ rest)
  let (list, after) ← cutAtClose? 0 inner
  return ⟨before ++ skipped, list, after⟩

/-- An argument is cut at its first colon; without one it has no type, and without a name there is no
argument. -/
def argument? (piece : Text) : Option Argument :=
  let (name, type) := (Text.cutAt? ':' piece).getD (piece, [])
  if Text.trim name = [] then none else some ⟨Text.trim name, Text.trim type⟩

/-- The arguments in a list; every comma separates, wherever it stands. -/
def arguments (list : Text) : List Argument := (list.splitOn ',').filterMap argument?

def defaultReturnType : Text := "void"

/-- The return type, read from the text after the closing parenthesis: it stands between `: ` and the
last ` {`. -/
def returnType (after : Text) : Text :=
  match (List.isPrefixOf? ": " after).bind (Text.cutLast? " \x7b") with
  | some (type, _) => if Text.trim type = [] then defaultReturnType else Text.trim type
  | none => defaultReturnType

def isComment (line : Line) : Bool := List.isPrefixOf "//" line.text.trim

/-- The comment lines of a body as they stand, joined by line breaks. -/
def comment (body : List Line) : Text := Line.unlines (body.filter isComment)

def stub (header : Line) (body : List Line) : Except Fault Stub :=
  match name? header.text with
  | none => .error ⟨.missingFunctionName, header⟩
  | some name =>
    match argumentList? header.text with
    | none => .error ⟨.missingArguments, header⟩
    | some a => .ok ⟨name, arguments a.list, returnType a.after, comment body⟩

end StubCompiler.Header
