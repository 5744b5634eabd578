import StubCompiler.Program.Basic

/-!
# Printing programs

Constructs have two written forms.  In the output a union is a plain type alias and an export list has
braces; this is what the completion service and the output file get to see.  The source form is the
one that the reader accepts.  Blocks of text are set apart by one empty line, and nothing else about
them is changed.
-/

namespace StubCompiler

/-- Blocks of text, one empty line between any two. -/
def assemble (blocks : List Text) : Text := List.intercalate "\n\n" blocks

def Argument.print (a : Argument) : Text :=
  if a.type = [] then a.name else a.name ++ ": " ++ a.type

namespace Stub

def signature (stub : Stub) : Text :=
  let arguments : Text := List.intercalate ", " (stub.arguments.map Argument.print)
  let returnType : Text := if stub.returnType = [] then "void" else stub.returnType
  "function " ++ stub.name ++ "(" ++ arguments ++ "): " ++ returnType ++ " \x7b"

/-- The function with its comment as the only content of its body. -/
def print (stub : Stub) : Text :=
  if stub.comment = [] then stub.signature ++ "\n\x7d"
  else stub.signature ++ "\n" ++ stub.comment ++ "\n\x7d"

end Stub

def printUnion (name : Text) (tags : List Text) : Text :=
  "type " ++ name ++ " = " ++ (List.intercalate " | " tags : Text) ++ ";"

def printExports (names : List Text) : Text :=
  "export \x7b " ++ (List.intercalate ", " names : Text) ++ " \x7d;"

/-- The form of a construct that the reader accepts. -/
def Construct.sourceText : Construct → Text
  | .function stub => stub.print
  | .pinned stub _ => "pinned " ++ stub.print
  | .typeDefinition body => body
  | .union name tags => "union " ++ printUnion name tags
  | .exportList names => "export " ++ (List.intercalate ", " names : Text)

def Program.sourceText (program : Program) : Text := assemble (program.map Construct.sourceText)

end StubCompiler
