import StubCompiler.Program.Header
import StubCompiler.Program.Printer
import StubCompiler.Proofs.Text

/-!
# Printed function headers

A printed header is read back: the name is found before the first parenthesis, the argument list ends
at the parenthesis that matches it, and the return type ends at the last brace.  The arguments are
found again although every comma separates.
-/

namespace StubCompiler

/-! ### Parentheses -/

/-- As many parentheses are closed as are opened, and none is closed before it is opened. -/
structure Text.IsBalanced (t : Text) : Prop where
  count_le : ∀ n, (t.take n).count ')' ≤ (t.take n).count '('
  count_eq : t.count ')' = t.count '('

instance (t : Text) : Decidable t.IsBalanced :=
  decidable_of_iff
    ((∀ n < t.length, (t.take n).count ')' ≤ (t.take n).count '(') ∧ t.count ')' = t.count '(')
    ⟨fun h => ⟨fun n => by
        by_cases hn : n < t.length
        · exact h.1 n hn
        · rw [List.take_of_length_le (by omega)]
          exact Nat.le_of_eq h.2, h.2⟩,
      fun h => ⟨fun n _ => h.count_le n, h.count_eq⟩⟩

namespace Header

theorem cutAtClose?_open (depth : Nat) (t : Text) :
    cutAtClose? depth ('(' :: t) =
      (cutAtClose? (depth + 1) t).map fun (list, after) => ('(' :: list, after) := by
  cases depth <;> simp [cutAtClose?]

theorem cutAtClose?_other {c : Char} (hopen : c ≠ '(') (hclose : c ≠ ')') (depth : Nat) (t : Text) :
    cutAtClose? depth (c :: t) =
      (cutAtClose? depth t).map fun (list, after) => (c :: list, after) := by
  cases depth <;> simp [cutAtClose?, hclose]

/-- With `depth` parentheses open, a text that closes just these is passed over. -/
theorem cutAtClose?_append {depth : Nat} {t : Text}
    (hle : ∀ n, (t.take n).count ')' ≤ depth + (t.take n).count '(')
    (heq : t.count ')' = depth + t.count '(') (after : Text) :
    cutAtClose? depth (t ++ ')' :: after) = some (t, after) := by
  induction t generalizing depth with
  | nil =>
    have hdepth : depth = 0 := by simpa using heq.symm
    subst hdepth
    rfl
  | cons c t ih =>
    have hle' : ∀ n, ((c :: t).take (n + 1)).count ')' ≤ depth + ((c :: t).take (n + 1)).count '(' :=
      fun n => hle (n + 1)
    simp only [List.take_succ_cons, List.count_cons] at hle'
    rw [List.count_cons, List.count_cons] at heq
    rw [List.cons_append]
    by_cases hopen : c = '('
    · subst hopen
      rw [cutAtClose?_open, ih]
      · rfl
      · intro n
        have := hle' n
        simp at this
        omega
      · simp at heq
        omega
    · by_cases hclose : c = ')'
      · subst hclose
        cases depth with
        | zero =>
          have := hle' 0
          simp at this
        | succ depth =>
          rw [cutAtClose?, ih]
          · rfl
          · intro n
            have := hle' n
            simp at this
            omega
          · simp at heq
            omega
      · rw [cutAtClose?_other hopen hclose, ih]
        · rfl
        · intro n
          have := hle' n
          simp [hopen, hclose] at this
          omega
        · simp [hopen, hclose] at heq
          omega

theorem cutAtClose?_of_isBalanced {t : Text} (h : t.IsBalanced) (after : Text) :
    cutAtClose? 0 (t ++ ')' :: after) = some (t, after) :=
  cutAtClose?_append (fun n => by simpa using h.count_le n) (by simpa using h.count_eq) after

theorem spec_of_cutAtClose? {depth : Nat} {t list after : Text}
    (h : cutAtClose? depth t = some (list, after)) :
    t = list ++ ')' :: after ∧ list.count ')' = depth + list.count '(' ∧
      ∀ n, (list.take n).count ')' ≤ depth + (list.take n).count '(' := by
  induction t generalizing depth list with
  | nil => simp [cutAtClose?] at h
  | cons c t ih =>
    by_cases hopen : c = '('
    · subst hopen
      rw [cutAtClose?_open, Option.map_eq_some_iff] at h
      obtain ⟨⟨inner, rest⟩, hinner, hpair⟩ := h
      cases hpair
      obtain ⟨rfl, hcount, hle⟩ := ih hinner
      refine ⟨rfl, ?_, ?_⟩
      · simp
        omega
      · intro n
        cases n with
        | zero => simp
        | succ n =>
          have := hle n
          simp
          omega
    · by_cases hclose : c = ')'
      · subst hclose
        cases depth with
        | zero =>
          rw [cutAtClose?] at h
          cases h
          exact ⟨rfl, rfl, fun n => by simp⟩
        | succ depth =>
          rw [cutAtClose?, Option.map_eq_some_iff] at h
          obtain ⟨⟨inner, rest⟩, hinner, hpair⟩ := h
          cases hpair
          obtain ⟨rfl, hcount, hle⟩ := ih hinner
          refine ⟨rfl, ?_, ?_⟩
          · simp
            omega
          · intro n
            cases n with
            | zero => simp
            | succ n =>
              have := hle n
              simp
              omega
      · rw [cutAtClose?_other hopen hclose, Option.map_eq_some_iff] at h
        obtain ⟨⟨inner, rest⟩, hinner, hpair⟩ := h
        cases hpair
        obtain ⟨rfl, hcount, hle⟩ := ih hinner
        refine ⟨rfl, ?_, ?_⟩
        · simpa [hopen, hclose] using hcount
        · intro n
          cases n with
          | zero => simp
          | succ n => simpa [hopen, hclose] using hle n

/-- The parenthesis that closes the list is the one with a balanced text before it. -/
theorem cutAtClose?_eq_some_iff {t list after : Text} :
    cutAtClose? 0 t = some (list, after) ↔ t = list ++ ')' :: after ∧ list.IsBalanced := by
  constructor
  · intro h
    obtain ⟨ht, hcount, hle⟩ := spec_of_cutAtClose? h
    exact ⟨ht, fun n => by simpa using hle n, by simpa using hcount⟩
  · rintro ⟨rfl, h⟩
    exact cutAtClose?_of_isBalanced h after

/-! ### The parts of a printed header -/

theorem name?_append {name : Text} (hopen : '(' ∉ name) (htrim : name.trim = name) (hne : name ≠ [])
    (rest : Text) : name? (keyword ++ (name ++ '(' :: rest)) = some name := by
  have hkey : keyword ≠ [] := by decide
  simp [name?, Text.cut?_append hkey, Text.cutAt?_append_cons hopen, htrim, hne]

theorem argumentList?_append {name list : Text} (hopen : '(' ∉ name) (hlist : list.IsBalanced)
    (after : Text) : argumentList? (keyword ++ (name ++ '(' :: (list ++ ')' :: after))) =
      some ⟨keyword ++ name, list, after⟩ := by
  have hkey : keyword ≠ [] := by decide
  have hmem : '(' ∉ keyword ++ name := by
    rw [List.mem_append, not_or]
    exact ⟨by decide, hopen⟩
  have hskip := Text.cutAt?_append_cons hmem (list ++ ')' :: after)
  rw [List.append_assoc] at hskip
  simp [argumentList?, Text.cut?_append hkey, hskip, cutAtClose?_of_isBalanced hlist]

theorem returnType_append {t : Text} (htrim : t.trim = t) (hne : t ≠ []) :
    returnType (": " ++ (t ++ " \x7b")) = t := by
  have hbrace : (" \x7b" : Text) ≠ [] := by decide
  simp only [returnType, Text.isPrefixOf?_append, Option.bind_some, Text.cutLast?_append hbrace,
    htrim, hne, if_false]

end Header

/-! ### Arguments -/

structure Argument.WellFormed (a : Argument) : Prop where
  name : Text.IsField ",:\n" a.name
  type_trim : a.type.trim = a.type
  type_not_mem : ∀ c ∈ (",\n" : Text), c ∉ a.type

instance (a : Argument) : Decidable a.WellFormed :=
  decidable_of_iff
    (Text.IsField ",:\n" a.name ∧ a.type.trim = a.type ∧ (",\n" : Text).all (· ∉ a.type) = true)
    ⟨fun h => ⟨h.1, h.2.1, by simpa using h.2.2⟩,
      fun h => ⟨h.name, h.type_trim, by simpa using h.type_not_mem⟩⟩

theorem Header.argument?_pad {a : Argument} (h : a.WellFormed) {w z : Text}
    (hw : w.isBlankText = true) (hz : z.isBlankText = true) :
    argument? (w ++ a.print ++ z) = some a := by
  have hcolon : ':' ∉ a.name := h.name.not_mem ':' (by decide)
  have hmark : Text.isBlank ':' = false := by decide
  have hw' : ':' ∉ w := Text.not_mem_of_isBlankText hmark hw
  have hz' : ':' ∉ z := Text.not_mem_of_isBlankText hmark hz
  by_cases ht : a.type = []
  · have hcut : Text.cutAt? ':' (w ++ a.print ++ z) = none := by
      rw [Text.cutAt?_eq_none_iff, Argument.print, if_pos ht]
      simp [hw', hz', hcolon]
    have htrim : Text.trim (w ++ a.print ++ z) = a.name := by
      rw [Argument.print, if_pos ht]
      exact Text.trim_pad hw h.name.trim_eq hz
    rw [argument?, hcut, Option.getD_none]
    dsimp only
    rw [htrim, if_neg h.name.ne_nil, Text.trim_nil, ← ht]
  · have hpiece : w ++ a.print ++ z = (w ++ a.name) ++ ':' :: (" " ++ a.type ++ z) := by
      rw [Argument.print, if_neg ht]
      simp
    have hname : ':' ∉ w ++ a.name := by simp [hw', hcolon]
    have htrim : Text.trim (w ++ a.name) = a.name := by
      rw [Text.trim_append_left hw, h.name.trim_eq]
    have htype : Text.trim (" " ++ a.type ++ z) = a.type := Text.trim_pad (by decide) h.type_trim hz
    rw [argument?, hpiece, Text.cutAt?_append_cons hname, Option.getD_some]
    dsimp only
    rw [htrim, htype, if_neg h.name.ne_nil]

theorem Argument.WellFormed.not_mem_print {a : Argument} (h : a.WellFormed) {c : Char}
    (hc : c ∈ (",\n" : Text)) : c ∉ a.print := by
  have hname : c ∉ a.name := h.name.not_mem c (by
    have : c = ',' ∨ c = '\n' := by simpa using hc
    rcases this with rfl | rfl <;> decide)
  have htype : c ∉ a.type := h.type_not_mem c hc
  have hsep : c ∉ (": " : Text) := by
    have : c = ',' ∨ c = '\n' := by simpa using hc
    rcases this with rfl | rfl <;> decide
  rw [Argument.print]
  split
  · exact hname
  · simp only [List.mem_append, not_or]
    exact ⟨⟨hname, hsep⟩, htype⟩

/-- Printed arguments are read back. -/
theorem Header.arguments_print {arguments : List Argument} (h : ∀ a ∈ arguments, a.WellFormed) :
    Header.arguments (List.intercalate ", " (arguments.map Argument.print)) = arguments := by
  cases arguments with
  | nil => rfl
  | cons a as =>
    have hprint : ∀ b ∈ a :: as, ',' ∉ b.print := fun b hb => (h b hb).not_mem_print (by decide)
    have hread : ∀ b ∈ a :: as, ∀ w z, Text.isBlankText w = true → Text.isBlankText z = true ∨ z = [] →
        argument? (w ++ b.print ++ z) = some b := by
      intro b hb w z hw hz
      have hz' : Text.isBlankText z = true := by
        rcases hz with hz | rfl
        · exact hz
        · rfl
      exact argument?_pad (h b hb) hw hz'
    have hjoin := Text.filterMap_splitOn_join [] [] " " [] (by decide) rfl rfl (by decide) (by decide)
      a as hprint hread
    rw [List.nil_append, List.append_nil, List.filterMap_some] at hjoin
    exact hjoin

end StubCompiler
