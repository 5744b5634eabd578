import StubCompiler.Diagnostic.Basic

/-!
# Diagnostics as listings

A listing says what a diagnostic holds, one line per part, without showing the source.  With colours,
the parts are wrapped in the terminal's style sequences.
-/

namespace StubCompiler

/-- The parameters of a terminal style sequence. -/
abbrev Style := Text

namespace Style

def reset : Text := "\x1b[0m"

def start (style : Style) : Text := "\x1b[" ++ style ++ "m"

/-- A text in which the style starts anew after every reset. -/
def resume (style : Style) : Text → Text
  | [] => []
  | c :: t =>
    if reset.isPrefixOf (c :: t) then
      reset ++ start style ++ resume style (t.drop 3)
    else c :: resume style t
termination_by t => t.length
decreasing_by
  · simp only [List.length_drop, List.length_cons]
    omega
  · simp

/-- A text in a style; a reset inside it does not end the style. -/
def paint (style : Style) (t : Text) : Text := start style ++ resume style t ++ reset

def paintIf (colours : Bool) (style : Style) (t : Text) : Text :=
  if colours then paint style t else t

end Style

namespace Diagnostic

def printSpan (span : Span) : Text := Text.ofNat span.start ++ ".." ++ Text.ofNat span.stop

def location? (d : Diagnostic) : Option Text :=
  match d.file, d.span with
  | some file, some span => some (file ++ ":" ++ printSpan span)
  | some file, none => some file
  | none, some span => some (printSpan span)
  | none, none => none

def levelStyle : Level → Style
  | .error => "1;31"
  | .warning => "1;33"
  | .note => "1;90"

def levelName (colours : Bool) (level : Level) : Text :=
  Style.paintIf colours (levelStyle level) level.name

def listing (colours : Bool) (d : Diagnostic) : Text :=
  let paint := Style.paintIf colours
  let heading := levelName colours d.level ++ ": " ++ paint "1" d.message ++ "\n"
  let place := match d.location? with
    | some location => "  " ++ paint "1;34" "-->" ++ " " ++ location ++ "\n"
    | none => []
  let notes : Text := d.notes.flatMap fun note : Text =>
    ("  " : Text) ++ paint "1;34" "=" ++ " " ++ paint "90" ("note: " ++ note) ++ "\n"
  let suggestions : Text := d.suggestions.flatMap fun suggestion : Text =>
    ("  " : Text) ++ paint "1;32" "=" ++ " " ++ paint "32" ("help: " ++ suggestion) ++ "\n"
  heading ++ place ++ notes ++ suggestions

end Diagnostic

end StubCompiler
