import StubCompiler.Source.Line

/-!
# Blocks of lines

A block runs from its first line to the first line that closes it, that one included; blocks do not
nest.  A brace block is closed by a line that is exactly a closing brace, a declaration by a line that
ends in a semicolon.
-/

namespace StubCompiler

inductive Delimiter where
  | brace
  | terminator
deriving DecidableEq, Repr

namespace Delimiter

def closes : Delimiter → Line → Bool
  | .brace, line => line.kind == .close
  | .terminator, line => line.isTerminator

/-- The offset of the first line that ends the block. -/
def end? (d : Delimiter) (lines : List Line) : Option Nat := lines.findIdx? d.closes

/-- The block at the head of `lines` and the lines after it, if a line ends it. -/
def block? (d : Delimiter) : List Line → Option (List Line × List Line)
  | [] => none
  | line :: lines =>
    if d.closes line then some ([line], lines)
    else (block? d lines).map fun (block, rest) => (line :: block, rest)

theorem eq_of_block? {d : Delimiter} {lines block rest : List Line}
    (h : d.block? lines = some (block, rest)) : lines = block ++ rest := by
  induction lines generalizing block with
  | nil => simp [block?] at h
  | cons line lines ih =>
    by_cases hc : d.closes line
    · simp [block?, hc] at h
      simp [← h.1, h.2]
    · simp only [block?, if_neg hc, Option.map_eq_some_iff, Prod.exists, Prod.mk.injEq] at h
      obtain ⟨b, r, hbr, rfl, rfl⟩ := h
      simp [ih hbr]

theorem ne_nil_of_block? {d : Delimiter} {lines block rest : List Line}
    (h : d.block? lines = some (block, rest)) : block ≠ [] := by
  cases lines with
  | nil => simp [block?] at h
  | cons line lines =>
    by_cases hc : d.closes line
    · simp [block?, hc] at h
      simp [← h.1]
    · simp only [block?, if_neg hc, Option.map_eq_some_iff, Prod.exists, Prod.mk.injEq] at h
      obtain ⟨b, r, -, rfl, -⟩ := h
      simp

theorem length_lt_of_block? {d : Delimiter} {lines block rest : List Line}
    (h : d.block? lines = some (block, rest)) : rest.length < lines.length := by
  have hpos : 0 < block.length := List.length_pos_iff.2 (ne_nil_of_block? h)
  rw [eq_of_block? h, List.length_append]
  omega

theorem end?_eq_map_block? (d : Delimiter) (lines : List Line) :
    d.end? lines = (d.block? lines).map fun (block, _) => block.length - 1 := by
  induction lines with
  | nil => rfl
  | cons line lines ih =>
    by_cases hc : d.closes line
    · simp [end?, block?, List.findIdx?_cons, hc]
    · simp only [end?] at ih
      simp only [end?, block?, List.findIdx?_cons, hc, ih, Option.map_map]
      cases hb : d.block? lines with
      | none => simp
      | some p =>
        have := List.length_pos_iff.2 (ne_nil_of_block? hb)
        simp
        omega

end Delimiter

end StubCompiler
