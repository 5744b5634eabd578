import StubCompiler.Program.Header
import StubCompiler.Source.Block

/-!
# The previous output

A pinned function keeps the body it has in the output of the last run.  The output is searched from
the top, block by block: only unindented headers count, so that a field of a type block is never taken
for a function, and the search stops with a fault at a header that cannot be read.
-/

namespace StubCompiler

/-- The output of the last run, empty if there was none. -/
structure PreviousOutput where
  lines : List Line
deriving DecidableEq, Repr

namespace PreviousOutput

def ofText (text : Text) : PreviousOutput := ⟨Line.ofSource text⟩

def isHeader (line : Line) : Bool := line.kind.startsFunction && line.isUnindented

def search (name : Text) : List Line → Except Fault (Option Text)
  | [] => .ok none
  | line :: lines =>
    if isHeader line then
      match _h : Delimiter.brace.block? (line :: lines) with
      | none => .error ⟨.unterminated .function, line⟩
      | some (block, rest) =>
        match Header.name? line.text with
        | none => .error ⟨.missingFunctionName, line⟩
        | some found => if found = name then .ok (some (Line.unlines block)) else search name rest
    else search name lines
termination_by lines => lines.length
decreasing_by
  · exact Delimiter.length_lt_of_block? _h
  · simp

/-- The function `name`, from its header to its closing line, as it stands in the output. -/
def function? (previous : PreviousOutput) (name : Text) : Except Fault (Option Text) :=
  search name previous.lines

/-- The construct that a pinned stub stands for: frozen if the output has its body, an ordinary
function if not. -/
def resolve (previous : PreviousOutput) (header : Line) (stub : Stub) :
    Except SyntaxError Construct :=
  match previous.function? stub.name with
  | .ok (some body) => .ok (.pinned stub body)
  | .ok none => .ok (.function stub)
  | .error cause => .error (.pinning stub.name header cause)

end PreviousOutput

end StubCompiler
