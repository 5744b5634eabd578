import StubCompiler.Program.Previous

/-!
# Reading a program

The lines of a source are read in one pass.  A line that opens a block takes the block with it, and
reading goes on after the block; blank and unknown lines are skipped.  Errors of single constructs are
collected and reading goes on; a block without an end stops the reading, and is then the only error.
-/

namespace StubCompiler

/-- The errors of a source that cannot be read, at least one. -/
abbrev SyntaxErrors := List SyntaxError

namespace SyntaxErrors

def message (errors : SyntaxErrors) : Text := Text.unlines (errors.map SyntaxError.message)

end SyntaxErrors

namespace Reader

/-- The construct of a function block: its first line is the header, its last line closes it. -/
def function (previous : PreviousOutput) (isPinned : Bool) (header : Line) (block : List Line) :
    Except SyntaxError Construct :=
  match Header.stub header block.tail.dropLast with
  | .error fault => .error (.inSource fault)
  | .ok stub => if isPinned then previous.resolve header stub else .ok (.function stub)

def unionKeyword : Text := "union type"

/-- The tag that a piece of a union stands for, if it holds any: semicolons at its end are dropped. -/
def tag? (piece : Text) : Option Text :=
  let tag := Text.trim ((Text.trim piece).dropEnd (· == ';'))
  if tag = [] then none else some tag

def tags (text : Text) : List Text := (text.splitOn '|').filterMap tag?

/-- The construct of a union declaration, whose lines are read as one. -/
def union (header : Line) (block : List Line) : Except SyntaxError Construct :=
  let text : Text := List.intercalate " " (block.map fun line => line.text.trim)
  match Text.cutAt? '=' ((unionKeyword.isPrefixOf? text).getD text) with
  | none => .error (.inSource ⟨.missingUnionName, header⟩)
  | some (name, rest) =>
    if Text.trim name = [] then .error (.inSource ⟨.missingUnionName, header⟩)
    else .ok (.union (Text.trim name) (tags rest))

def exportKeyword : Text := "export"

def names (list : Text) : List Text :=
  (list.splitOn ',').filterMap fun piece =>
    if Text.trim piece = [] then none else some (Text.trim piece)

def exportList (line : Line) : Construct :=
  let text := line.text.trim
  .exportList (names ((exportKeyword.isPrefixOf? text).getD text))

/-- What the line at the head of the remaining lines leads to. -/
inductive Step where
  /-- The line means nothing; go on with the next. -/
  | skip
  /-- A construct, or an error in it, and the lines after it. -/
  | entry (construct : Except SyntaxError Construct) (rest : List Line)
  /-- The line opens a block that nothing closes. -/
  | unterminated (block : BlockKind)

def takeBlock (d : Delimiter) (kind : BlockKind) (line : Line) (lines : List Line)
    (construct : List Line → Except SyntaxError Construct) : Step :=
  match d.block? (line :: lines) with
  | none => .unterminated kind
  | some (block, rest) => .entry (construct block) rest

/-- One step of reading: `line` is the next line and `lines` are those after it. -/
def step (previous : PreviousOutput) (line : Line) (lines : List Line) : Step :=
  match line.kind with
  | .pinnedFunction => takeBlock .brace .function line lines (function previous true line)
  | .function => takeBlock .brace .function line lines (function previous false line)
  | .unionType => takeBlock .terminator .unionType line lines (union line)
  | .typeDefinition =>
    takeBlock .brace .typeDefinition line lines fun block =>
      .ok (.typeDefinition (Line.unlines block))
  | .exportList => .entry (.ok (exportList line)) lines
  | .close | .blank | .other => .skip

theorem length_le_of_takeBlock {d : Delimiter} {kind : BlockKind} {line : Line}
    {lines rest : List Line} {construct : List Line → Except SyntaxError Construct}
    {result : Except SyntaxError Construct}
    (h : takeBlock d kind line lines construct = .entry result rest) :
    rest.length ≤ lines.length := by
  unfold takeBlock at h
  split at h
  · exact Step.noConfusion h
  · rename_i hb
    have hlt := Delimiter.length_lt_of_block? hb
    injection h with _ hrest
    subst hrest
    simp only [List.length_cons] at hlt
    omega

theorem length_le_of_step {previous : PreviousOutput} {line : Line} {lines rest : List Line}
    {result : Except SyntaxError Construct}
    (h : step previous line lines = .entry result rest) : rest.length ≤ lines.length := by
  unfold step at h
  split at h
  · exact length_le_of_takeBlock h
  · exact length_le_of_takeBlock h
  · exact length_le_of_takeBlock h
  · exact length_le_of_takeBlock h
  · injection h with _ hrest
    subst hrest
    exact Nat.le_refl _
  · exact Step.noConfusion h
  · exact Step.noConfusion h
  · exact Step.noConfusion h

/-- Reads the remaining lines, with the constructs and the errors found so far. -/
def read (previous : PreviousOutput) (found : Program) (errors : SyntaxErrors) :
    List Line → Except SyntaxErrors Program
  | [] => if errors = [] then .ok found else .error errors
  | line :: lines =>
    match _h : step previous line lines with
    | .skip => read previous found errors lines
    | .unterminated block => .error [.inSource ⟨.unterminated block, line⟩]
    | .entry (.ok construct) rest => read previous (found ++ [construct]) errors rest
    | .entry (.error error) rest => read previous found (errors ++ [error]) rest
termination_by lines => lines.length
decreasing_by
  · simp
  · have := length_le_of_step _h
    simp only [List.length_cons]
    omega
  · have := length_le_of_step _h
    simp only [List.length_cons]
    omega

end Reader

/-- Reads a source; `previous` is the output of the last run, in which pinned functions are looked up. -/
def readProgram (source previous : Text) : Except SyntaxErrors Program :=
  Reader.read (.ofText previous) [] [] (Line.ofSource source)

end StubCompiler
