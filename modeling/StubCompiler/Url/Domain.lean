import StubCompiler.Url.Direction
import StubCompiler.Url.Form
import StubCompiler.Url.Joiner
import StubCompiler.Url.Punycode

/-!
# Domain names

A domain name is read character by character: each stands for itself, for what it is a form of, or for
nothing, unless it is refused; what comes of this is composed.  The name is then cut into labels at its
points.  A label that is encoded must be the code of a label that stands for itself, and every label
must be fit to be seen.
-/

namespace StubCompiler.Domain

/-- The characters of ASCII that a domain name cannot hold, the controls aside. -/
def asciiDenied : Text := " #%/:<>?@[\\]^|"

def isDenied (c : Char) : Bool := c.toNat < 0x20 || c.toNat = 0x7F || asciiDenied.contains c

/-- The plain and composed text that a text stands for. -/
def plain? (t : Text) : Option Text := do
  let plain := Text.composed (← t.mapM form?).flatten
  if plain.any isDenied then none else some plain

def encodedMark : Text := "xn--"

/-- The length of the longest code that is read, and of the longest label that is encoded: the work
grows with the square of it. -/
def longestCode : Nat := 2000

@[inherit_doc longestCode]
def longestLabel : Nat := 1000

/-- The label that is seen: what an encoded label is the code of, and any other label itself.  A code
ends in a digit, and what it is the code of stands for itself. -/
def seen? (label : Text) : Option Text :=
  match encodedMark.isPrefixOf? label with
  | none => some label
  | some code =>
    if label.getLast? ≠ some '-' && code.length ≤ longestCode && code.all (·.toNat < 0x80) then
      (Punycode.decode? code).filter fun label => plain? label = some label
    else none

/-- The label does not start with a mark, holds no joiner without effect, and can be encoded. -/
def isFit (label : Text) : Bool :=
  !label.head?.any isMark && joinersFit [] label &&
    (label.length ≤ longestLabel || label.all (·.toNat < 0x80))

def read? (t : Text) : Option Text := do
  let name ← plain? t
  let labels ← (name.splitOn '.').mapM seen?
  if name ≠ [] && labels.all isFit && haveClearDirections labels then some name else none

end StubCompiler.Domain
