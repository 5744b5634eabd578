import StubCompiler.Source.Line

/-!
# Faults of a source

A fault is a complaint about one line.  A syntax error is a fault of the source itself, or a fault of
the last output that was met while a function was being pinned; then the line is the header in the
source and the position of the cause refers to the last output.
-/

namespace StubCompiler

/-- The constructs that run up to a closing line. -/
inductive BlockKind where
  | function
  | typeDefinition
  | unionType
deriving DecidableEq, Repr

def BlockKind.describe : BlockKind → Text
  | .function => "function"
  | .typeDefinition => "type definition"
  | .unionType => "union type"

inductive Complaint where
  | missingFunctionName
  | missingArguments
  | missingUnionName
  /-- No line closes the block that the line opens. -/
  | unterminated (block : BlockKind)
deriving DecidableEq, Repr

structure Fault where
  complaint : Complaint
  line : Line
deriving DecidableEq, Repr

namespace Complaint

def lead : Complaint → Text
  | .missingFunctionName => "Failed to find function name in "
  | .missingArguments => "Failed to find function arguments in "
  | .missingUnionName => "Failed to find union type name in "
  | .unterminated .unionType => "Failed to find terminating semicolon for union type "
  | .unterminated block => "Failed to find closing bracket for " ++ block.describe ++ " "

/-- Nothing can be said about the lines after an unterminated block. -/
def isFatal : Complaint → Bool
  | .unterminated _ => true
  | _ => false

end Complaint

/-- The complaint, followed by the line as it stands. -/
def Fault.message (fault : Fault) : Text := fault.complaint.lead ++ fault.line.text

def Fault.shift (lines bytes : Nat) (fault : Fault) : Fault :=
  { fault with line := fault.line.shift lines bytes }

inductive SyntaxError where
  | inSource (fault : Fault)
  /-- The function `name`, declared on `line`, cannot be looked up in the last output. -/
  | pinning (name : Text) (line : Line) (cause : Fault)
deriving DecidableEq, Repr

namespace SyntaxError

/-- The line of the source that the error is about. -/
def line : SyntaxError → Line
  | .inSource fault => fault.line
  | .pinning _ line _ => line

def message : SyntaxError → Text
  | .inSource fault => fault.message
  | .pinning name _ cause => "Failed to pin function `" ++ name ++ "`: " ++ cause.message

/-- The error ends the reading at once; one met while pinning never does. -/
def isFatal : SyntaxError → Bool
  | .inSource fault => fault.complaint.isFatal
  | .pinning .. => false

/-- The error as it is in a longer source; the cause of a pinning error stays where it is. -/
def shift (lines bytes : Nat) : SyntaxError → SyntaxError
  | .inSource fault => .inSource (fault.shift lines bytes)
  | .pinning name line cause => .pinning name (line.shift lines bytes) cause

end SyntaxError

end StubCompiler
