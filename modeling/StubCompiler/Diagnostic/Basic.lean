import StubCompiler.Program.Reader

/-!
# Diagnostics

A diagnostic is one message for the user, with a level, a place, a label for that place, notes and
suggestions.  Syntax errors have a diagnostic each, about the whole line.
-/

namespace StubCompiler

inductive Level where
  | error
  | warning
  | note
deriving DecidableEq, Repr

def Level.name : Level → Text
  | .error => "error"
  | .warning => "warning"
  | .note => "note"

structure Diagnostic where
  level : Level
  message : Text
  file : Option Text := none
  span : Option Span := none
  label : Option Text := none
  notes : List Text := []
  suggestions : List Text := []
deriving DecidableEq, Repr

namespace Diagnostic

def inFile (file : Option Text) (d : Diagnostic) : Diagnostic :=
  { d with file := file <|> d.file }

end Diagnostic

/-- The diagnostics of a run, in the order in which they came up. -/
abbrev Sink := List Diagnostic

namespace Sink

def errorCount (sink : Sink) : Nat := sink.countP (·.level == .error)

def warningCount (sink : Sink) : Nat := sink.countP (·.level == .warning)

def hasErrors (sink : Sink) : Bool := sink.any (·.level == .error)

end Sink

/-! ### Syntax errors -/

def Fault.diagnostic (fault : Fault) : Diagnostic :=
  let about (label : Text) (notes suggestions : List Text) : Diagnostic :=
    ⟨.error, fault.message, none, some fault.line.span, some label, notes, suggestions⟩
  match fault.complaint with
  | .missingFunctionName =>
    about "no name between `function ` and `(`" []
      ["write the header as `function name(arg: Type): ReturnType \x7b`"]
  | .missingArguments =>
    about "argument list is not closed on this line" []
      ["open and close `(...)` on the header line"]
  | .missingUnionName =>
    about "expected `union type Name = A | B;`" [] ["name the union before `=`"]
  | .unterminated .unionType =>
    about "declaration starts here" ["a union type ends at the first line ending in `;`"] []
  | .unterminated _ =>
    about "block starts here" ["a block ends at the first line that is exactly `\x7d`"] []

def SyntaxError.diagnostic : SyntaxError → Diagnostic
  | .inSource fault => fault.diagnostic
  | .pinning name line cause =>
    { level := .error
      message := (SyntaxError.pinning name line cause).message
      span := some line.span
      label := some "pinned here"
      notes := ["previous output line " ++ Text.ofNat cause.line.number ++ ": " ++ cause.message] }

end StubCompiler
