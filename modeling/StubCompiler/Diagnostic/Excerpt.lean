import StubCompiler.Diagnostic.Listing
import StubCompiler.Text.Cells

/-!
# Diagnostics with an excerpt of the source

An excerpt shows the display line in which the span of a diagnostic starts, with the span marked and
its label below, then the last suggestion and the last note.  Display lines end at every kind of line
break, so they can be shorter than the lines of the program.  Positions on a display line are columns,
counted in characters; a column is drawn in as many cells as its character takes.
-/

namespace StubCompiler

namespace Text

/-- Line breaks of a display, a carriage return and a line feed together being one. -/
def isBreak (c : Char) : Bool :=
  ['\n', '\r', '\x0b', '\x0c', '\u0085', '\u2028', '\u2029'].contains c

/-- The display lines of a text, each with its break; nothing follows a break at the end. -/
def displayLines : Text → List Text
  | [] => []
  | '\r' :: '\n' :: t => ['\r', '\n'] :: displayLines t
  | c :: t =>
    if isBreak c then [c] :: displayLines t
    else match displayLines t with
      | [] => [[c]]
      | line :: rest => (c :: line) :: rest

end Text

structure Place where
  /-- The number of the display line, from 1. -/
  number : Nat
  /-- The display line with its break. -/
  line : Text
  /-- The bytes of the source before the line. -/
  start : Nat
deriving DecidableEq, Repr

namespace Place

/-- The display line that holds the byte `position`; the last line holds the end of the source. -/
def find? (position : Nat) (number start : Nat) : List Text → Option Place
  | [] => none
  | [line] => some ⟨number, line, start⟩
  | line :: lines =>
    if position < start + line.byteLength then some ⟨number, line, start⟩
    else find? position (number + 1) (start + line.byteLength) lines

/-- The number of characters of `line` that start before its first `bytes` bytes are over. -/
def columnOf (bytes : Nat) : Text → Nat
  | [] => 0
  | c :: t => if bytes = 0 then 0 else 1 + columnOf (bytes - c.utf8Size) t

def column (p : Place) (position : Nat) : Nat := columnOf (position - p.start) p.line

end Place

namespace Excerpt

def paint (colours : Bool) (style : Style) (t : Text) : Text :=
  if colours then style.start ++ t ++ Style.reset else t

def frameStyle : Style := "38;5;246"

def marginStyle : Style := "38;5;240"

/-- The style of what the span does not cover. -/
def plainStyle : Style := "38;5;249"

/-- The style of the words that introduce suggestions and notes. -/
def remarkStyle : Style := "38;5;115"

def heading : Level → Text × Style
  | .error => ("Error:", "31")
  | .warning => ("Warning:", "33")
  | .note => ("Advice:", "38;5;147")

def spanStyle : Level → Style
  | .error => "31"
  | .warning => "33"
  | .note => "36"

/-- The character that stands for `c` at a column, and the number of cells it fills. -/
def drawn (c : Char) (column : Nat) : Char × Nat :=
  if c = '\t' then (' ', 4 - column % 4)
  else if Text.isBlank c then (' ', 1)
  else (c, Text.cells c)

def drawLine (colours : Bool) (style : Style) (first last : Nat) (line : Text) : Text :=
  line.zipIdx.flatMap fun (c, column) =>
    let style := if first ≤ column ∧ column < last then style else plainStyle
    let (shown, width) := drawn c column
    if c = '\t' then (List.replicate width (paint colours style [shown])).flatten
    else paint colours style [shown]

/-- The cells of one column: `mark` first, then `filler` up to the width of the column. -/
def drawCell (paint : Text → Text) (width : Nat) (mark filler : Char) : Text :=
  match width with
  | 0 => []
  | n + 1 => paint [mark] ++ (List.replicate n (paint [filler])).flatten

/-- The width of a column of `t`; past the end every column is one cell wide. -/
def width (t : Text) (column : Nat) : Nat :=
  match t[column]? with
  | some c => (drawn c column).2
  | none => 1

/-- The two rows below the line: a bar under the span, with a stem in its middle, and an arm from the
stem to the label. -/
def drawLabel (colours : Bool) (style : Style) (margin : Text) (first last : Nat) (line label : Text) :
    Text :=
  let middle := (first + last) / 2
  let mark := paint colours style
  let bar : Text := (List.range (last + 2)).flatMap fun column =>
    let width := width line column
    if column = middle ∧ first = last then drawCell mark width '│' ' '
    else if column = middle then drawCell mark width '┬' '─'
    else if first ≤ column ∧ column < last then drawCell mark width '─' '─'
    else drawCell id width ' ' ' '
  let arm : Text := (List.range (last + 2)).flatMap fun column =>
    let width := width line column
    if column < middle then drawCell id width ' ' ' '
    else if column = middle then drawCell mark width '╰' '─'
    else drawCell mark width '─' '─'
  margin ++ bar ++ "\n" ++ margin ++ arm ++ " " ++ label ++ "\n"

def drawRemark (colours : Bool) (margin word : Text) (remark : Option Text) : Text :=
  match remark with
  | none => []
  | some remark =>
    margin ++ "\n" ++ margin ++ paint colours remarkStyle word ++ ": " ++ remark ++ "\n"

def drawPlace (colours : Bool) (d : Diagnostic) (span : Span) (place : Place) : Text :=
  let frame := paint colours frameStyle
  let number := Text.ofNat place.number
  let space (n : Nat) : Text := List.replicate n ' '
  let first := place.column span.start
  let last := place.column span.stop
  let line := place.line.trimEnd
  let style := spanStyle d.level
  let margin := " " ++ paint colours marginStyle (space (number.length + 1) ++ "│") ++ " "
  let top := space (number.length + 2) ++ frame "╭" ++ frame "─" ++ frame "[" ++ "<unknown>:" ++ number ++
    ":" ++ Text.ofNat (first + 1) ++ frame "]" ++ "\n" ++ space (number.length + 2) ++ frame "│" ++ "\n"
  let shown := " " ++ frame (number ++ " │") ++ " " ++ drawLine colours style first last line ++ "\n"
  let label := match d.label with
    | none => []
    | some label => drawLabel colours style margin first last line label
  let remarks := drawRemark colours margin "Help" d.suggestions.getLast? ++
    drawRemark colours margin "Note" d.notes.getLast?
  let bottom := frame (List.replicate (number.length + 2) '─' ++ "╯") ++ "\n"
  top ++ shown ++ label ++ remarks ++ bottom

/-- The excerpt for a diagnostic with the given span; an empty source has a heading alone. -/
def draw (colours : Bool) (source : Text) (d : Diagnostic) (span : Span) : Text :=
  let (word, style) := heading d.level
  let top := paint colours style word ++ " " ++ d.message ++ "\n"
  match Place.find? span.start 1 0 source.displayLines with
  | none => top
  | some place => top ++ drawPlace colours d span place

end Excerpt

namespace Diagnostic

/-- What a diagnostic looks like beside a source.  The span is used if it lies in the source, and the
listing stands in where there is none; a span that ends before it starts has no excerpt. -/
def excerpt? (listingColours colours : Bool) (source : Text) (d : Diagnostic) : Option Text :=
  match d.span with
  | none => some (d.listing listingColours)
  | some span =>
    if source.byteLength < span.stop then some (d.listing listingColours)
    else if span.stop < span.start then none
    else some (Excerpt.draw colours source d span)

end Diagnostic

/-- Which renderings of diagnostics use colours. -/
structure Palette where
  listing : Bool
  excerpt : Bool
deriving DecidableEq, Repr

/-- All diagnostics, each followed by an empty line; with a source they are shown as excerpts. -/
def Sink.render (palette : Palette) (source : Option Text) (sink : Sink) : Text :=
  sink.flatMap fun d =>
    (match source with
      | none => d.listing palette.listing
      | some source => (d.excerpt? palette.listing palette.excerpt source).getD []) ++ ['\n']

end StubCompiler
