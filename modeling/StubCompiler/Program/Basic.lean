import StubCompiler.Text.Basic

/-!
# Programs

A program is the list of its top-level constructs, in the order of the source.  That order is also the
order of the output and the order in which the completion service learns about the program.
-/

namespace StubCompiler

/-- An argument of a function; the type is empty where none is written. -/
structure Argument where
  name : Text
  type : Text
deriving DecidableEq, Repr

/-- A function whose body is to be written. -/
structure Stub where
  name : Text
  arguments : List Argument
  /-- Stands for `void` when empty. -/
  returnType : Text
  /-- The comment lines of the body, joined by line breaks. -/
  comment : Text
deriving DecidableEq, Repr

inductive Construct where
  /-- A function that the service completes. -/
  | function (stub : Stub)
  /-- A function whose body is taken over, word for word, from the last output. -/
  | pinned (stub : Stub) (body : Text)
  /-- A block that is copied to the output. -/
  | typeDefinition (body : Text)
  | union (name : Text) (tags : List Text)
  | exportList (names : List Text)
deriving DecidableEq, Repr

abbrev Program := List Construct

def Construct.stub? : Construct → Option Stub
  | .function stub | .pinned stub _ => some stub
  | _ => none

/-- The name under which other functions call the construct. -/
def Construct.functionName? (c : Construct) : Option Text := c.stub?.map Stub.name

end StubCompiler
