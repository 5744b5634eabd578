import StubCompiler.Text.Basic

/-!
# Cutting texts

A cut is a pair of texts: what stands before the place of the cut and what stands after it.  A text is
cut at the first occurrence of a character, at the first occurrence of a pattern, or at the last
occurrence of a pattern; the mark itself belongs to neither side.  The small lemmas say where a text is
cut at a character.
-/

namespace StubCompiler.Text

def cutAt? (mark : Char) : Text → Option (Text × Text)
  | [] => none
  | c :: t =>
    if c = mark then some ([], t)
    else (cutAt? mark t).map fun (before, after) => (c :: before, after)

/-- Cuts at the first place where `pattern` occurs. -/
def cut? (pattern : Text) : Text → Option (Text × Text)
  | [] => if pattern = [] then some ([], []) else none
  | c :: t =>
    match pattern.isPrefixOf? (c :: t) with
    | some after => some ([], after)
    | none => (cut? pattern t).map fun (before, after) => (c :: before, after)

/-- Cuts at the last place where `pattern` occurs. -/
def cutLast? (pattern : Text) : Text → Option (Text × Text)
  | [] => if pattern = [] then some ([], []) else none
  | c :: t =>
    match cutLast? pattern t with
    | some (before, after) => some (c :: before, after)
    | none => (pattern.isPrefixOf? (c :: t)).map fun after => ([], after)

theorem eq_of_cutAt? {mark : Char} {t before after : Text} (h : cutAt? mark t = some (before, after)) :
    t = before ++ mark :: after := by
  induction t generalizing before with
  | nil => simp [cutAt?] at h
  | cons c t ih =>
    by_cases hc : c = mark
    · simp [cutAt?, hc] at h
      simp [h, hc]
    · simp only [cutAt?, if_neg hc, Option.map_eq_some_iff, Prod.exists, Prod.mk.injEq] at h
      obtain ⟨b, a, hba, rfl, rfl⟩ := h
      simp [ih hba]

theorem not_mem_of_cutAt? {mark : Char} {t before after : Text}
    (h : cutAt? mark t = some (before, after)) : mark ∉ before := by
  induction t generalizing before with
  | nil => simp [cutAt?] at h
  | cons c t ih =>
    by_cases hc : c = mark
    · simp [cutAt?, hc] at h
      simp [h]
    · simp only [cutAt?, if_neg hc, Option.map_eq_some_iff, Prod.exists, Prod.mk.injEq] at h
      obtain ⟨b, a, hba, rfl, rfl⟩ := h
      simp [ih hba, Ne.symm hc]

theorem cutAt?_eq_none_iff {mark : Char} {t : Text} : cutAt? mark t = none ↔ mark ∉ t := by
  induction t with
  | nil => simp [cutAt?]
  | cons c t ih =>
    by_cases hc : c = mark
    · simp [cutAt?, hc]
    · simp [cutAt?, hc, ih, Ne.symm hc]

end StubCompiler.Text
