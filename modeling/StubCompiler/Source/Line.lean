import StubCompiler.Text.Cut

/-!
# Lines of a source

A source is read line by line.  A line knows its number, the byte where it starts and its text; its
span and its kind follow from these.  The kind depends on the trimmed text alone: a keyword counts as
soon as the trimmed text starts with it, so `typeof x` opens a type definition.
-/

namespace StubCompiler

/-- A half-open range of byte positions. -/
structure Span where
  start : Nat
  stop : Nat
deriving DecidableEq, Repr

/-- What a line is, judged by its trimmed text. -/
inductive LineKind where
  | pinnedFunction
  | function
  | unionType
  | typeDefinition
  | exportList
  | close
  | blank
  | other
deriving DecidableEq, Repr

/-- A line of a source: its number from 1, the byte where it starts, and its text without the break. -/
structure Line where
  number : Nat
  start : Nat
  text : Text
deriving DecidableEq, Repr

namespace LineKind

/-- The keywords in the order in which they are tried, each with the kind it announces. -/
def keywords : List (Text × LineKind) :=
  [("pinned function", .pinnedFunction), ("function", .function), ("union type", .unionType),
    ("type", .typeDefinition), ("export", .exportList)]

def ofTrimmed (t : Text) : LineKind :=
  if t = [] then .blank
  else if t = "\x7d" then .close
  else match keywords.find? fun (word, _) => word.isPrefixOf t with
    | some (_, kind) => kind
    | none => .other

def startsFunction : LineKind → Bool
  | .pinnedFunction | .function => true
  | _ => false

end LineKind

namespace Line

def span (line : Line) : Span := ⟨line.start, line.start + line.text.byteLength⟩

def kind (line : Line) : LineKind := LineKind.ofTrimmed line.text.trim

/-- The line ends in a semicolon, blanks aside. -/
def isTerminator (line : Line) : Bool := line.text.trim.getLast? == some ';'

/-- The line does not start with a blank. -/
def isUnindented (line : Line) : Bool :=
  match line.text with
  | [] => true
  | c :: _ => !Text.isBlank c

/-- The line further down in a longer source: `lines` more lines and `bytes` more bytes before it. -/
def shift (lines bytes : Nat) (line : Line) : Line :=
  { line with number := line.number + lines, start := line.start + bytes }

@[simp] theorem shift_text (m n : Nat) (line : Line) : (line.shift m n).text = line.text := rfl

@[simp] theorem shift_kind (m n : Nat) (line : Line) : (line.shift m n).kind = line.kind := rfl

/-- Texts as consecutive lines: the first has the given number and starts at the given byte, and
each next one starts one byte, the line break, after the end of the one before. -/
def consecutive (first start : Nat) : List Text → List Line
  | [] => []
  | t :: ts => ⟨first, start, t⟩ :: consecutive (first + 1) (start + t.byteLength + 1) ts

def ofSource (source : Text) : List Line := consecutive 1 0 source.lines

def unlines (lines : List Line) : Text := Text.unlines (lines.map Line.text)

theorem map_text_consecutive (first start : Nat) (ts : List Text) :
    (consecutive first start ts).map Line.text = ts := by
  induction ts generalizing first start with
  | nil => rfl
  | cons t ts ih => simp [consecutive, ih]

@[simp] theorem map_text_ofSource (source : Text) :
    (ofSource source).map Line.text = source.lines :=
  map_text_consecutive 1 0 source.lines

theorem unlines_ofSource (source : Text) : unlines (ofSource source) = source := by
  rw [unlines, map_text_ofSource, Text.unlines_lines]

end Line

end StubCompiler
