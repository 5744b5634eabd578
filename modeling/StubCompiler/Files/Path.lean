import StubCompiler.Text.Cut

/-!
# Paths

A path is a text with slashes.  Two paths are the same if they have the same components; repeated
slashes and dots in the middle do not count.
-/

namespace StubCompiler

/-- A part of a path that matters. -/
inductive PathComponent where
  | root
  /-- A dot at the start of the path. -/
  | current
  | parent
  | normal (name : Text)
deriving DecidableEq, Repr

namespace Path

/-- The component that a piece between slashes stands for, in the middle of a path. -/
def component? (piece : Text) : Option PathComponent :=
  if piece = [] || piece = "." then none
  else if piece = ".." then some .parent
  else some (.normal piece)

def components (path : Text) : List PathComponent :=
  let pieces := path.splitOn '/'
  let start : List PathComponent :=
    if path.head? = some '/' then [.root]
    else if pieces.head? = some "." then [.current]
    else []
  start ++ pieces.filterMap component?

def same (p q : Text) : Bool := components p == components q

def fileName? (path : Text) : Option Text :=
  match (components path).getLast? with
  | some (.normal name) => some name
  | _ => none

/-- The path to each component but the root and a dot at the start, the longest first; the pieces are
given last piece first. -/
def ofReversed : List Text → List Text
  | [] => []
  | piece :: pieces =>
    if (component? piece).isNone then ofReversed pieces
    else List.intercalate ['/'] (piece :: pieces).reverse :: ofReversed pieces

/-- The directories in which a file lies, the nearest first; the root and the working directory, which
are always there, are left out. -/
def directories (path : Text) : List Text := (ofReversed (path.splitOn '/').reverse).tail

/-- Where the output goes that is not stored. -/
def standardOutput : Text := "/dev/stdout"

def defaultOutput (input : Text) : Text := "build/" ++ (fileName? input).getD "out" ++ ".ts"

end Path

end StubCompiler
