import StubCompiler.Text.Basic

/-!
# Ranges of characters

A set of characters is given by the ranges of their code points.
-/

namespace StubCompiler.Text

def inRanges (ranges : List (Nat × Nat)) (c : Char) : Bool :=
  ranges.any fun (first, last) => first ≤ c.toNat && c.toNat ≤ last

end StubCompiler.Text
