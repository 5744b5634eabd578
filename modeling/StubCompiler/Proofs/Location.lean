import StubCompiler.Compilation
import StubCompiler.Proofs.Concatenation
import StubCompiler.Proofs.Lookup

/-!
# Where errors are

Every error is about a line of the source, and the cause of a pinning error about a line of the last
output.  The span of such a line holds its text, from one line break to the next, and its number counts
the line breaks before it.  Errors come in the order of their lines, each has one line of the message and
one diagnostic, and the span of that diagnostic can always be drawn.
-/

namespace StubCompiler

/-! ### Lines in their text -/

/-- The line stands in `source` with `before` in front of it and `after` behind it, between line breaks
or the ends of the source. -/
structure Line.IsAt (line : Line) (source before after : Text) : Prop where
  source_eq : source = before ++ line.text ++ after
  span_eq : line.span = ⟨before.byteLength, (before ++ line.text).byteLength⟩
  number_eq : line.number = before.count '\n' + 1
  not_mem : '\n' ∉ line.text
  before : before = [] ∨ before.getLast? = some '\n'
  after : after = [] ∨ after.head? = some '\n'

def Line.IsIn (line : Line) (source : Text) : Prop := ∃ before after, line.IsAt source before after

theorem Line.IsIn.span_le {line : Line} {source : Text} (h : line.IsIn source) :
    line.span.start ≤ line.span.stop ∧ line.span.stop ≤ source.byteLength := by
  obtain ⟨before, after, hat⟩ := h
  have hspan := hat.span_eq
  rw [hspan, hat.source_eq]
  simp only [Text.byteLength_append]
  omega

theorem Text.count_terminated {ts : List Text} (h : ∀ t ∈ ts, '\n' ∉ t) :
    (terminated ts).count '\n' = ts.length := by
  induction ts with
  | nil => rfl
  | cons t ts ih =>
    have ht : t.count '\n' = 0 := List.count_eq_zero.2 (h t (by simp))
    have hrest := ih fun u hu => h u (List.mem_cons_of_mem t hu)
    have hone : List.count '\n' ['\n'] = 1 := by decide
    rw [terminated_cons, List.count_append, List.count_append, ht, hone, hrest, List.length_cons]
    omega

theorem Text.getLast?_terminated (ts : List Text) :
    terminated ts = [] ∨ (terminated ts).getLast? = some '\n' := by
  rcases List.eq_nil_or_concat ts with rfl | ⟨us, t, rfl⟩
  · exact Or.inl rfl
  · refine Or.inr ?_
    have hend : terminated (us.concat t) = terminated us ++ t ++ ['\n'] := by
      simp [terminated, List.concat_eq_append]
    rw [hend, List.getLast?_concat]

theorem Text.unlines_append_cons (us : List Text) (t : Text) (vs : List Text) :
    ∃ after, unlines (us ++ t :: vs) = terminated us ++ t ++ after ∧
      (after = [] ∨ after.head? = some '\n') := by
  induction us with
  | nil =>
    cases vs with
    | nil => exact ⟨[], by simp [unlines, terminated], Or.inl rfl⟩
    | cons v vs =>
      refine ⟨'\n' :: unlines (v :: vs), ?_, Or.inr rfl⟩
      simp [unlines, terminated, List.intercalate_cons_cons]
  | cons u us ih =>
    obtain ⟨after, heq, hafter⟩ := ih
    have hbreak : unlines (u :: (us ++ t :: vs)) = u ++ ['\n'] ++ unlines (us ++ t :: vs) :=
      List.intercalate_cons_of_ne_nil (by simp)
    refine ⟨after, ?_, hafter⟩
    rw [List.cons_append, hbreak, heq, terminated_cons]
    simp only [List.append_assoc]

namespace Line

theorem exists_of_mem_consecutive {line : Line} {first start : Nat} {ts : List Text}
    (h : line ∈ consecutive first start ts) :
    ∃ us t vs, ts = us ++ t :: vs ∧ line = ⟨first + us.length, start + Text.lineBytes us, t⟩ := by
  induction ts generalizing first start with
  | nil => cases h
  | cons t ts ih =>
    rcases List.mem_cons.1 h with rfl | h
    · exact ⟨[], t, ts, rfl, rfl⟩
    · obtain ⟨us, u, vs, rfl, rfl⟩ := ih h
      refine ⟨t :: us, u, vs, rfl, ?_⟩
      simp only [List.length_cons, Text.lineBytes, Line.mk.injEq, and_true]
      omega

theorem isIn_of_mem_ofSource {line : Line} {source : Text} (h : line ∈ ofSource source) :
    line.IsIn source := by
  obtain ⟨us, t, vs, hlines, rfl⟩ := exists_of_mem_consecutive h
  have hbreak : ∀ u ∈ source.lines, '\n' ∉ u := fun u hu => Text.not_mem_of_mem_lines hu
  obtain ⟨after, heq, hafter⟩ := Text.unlines_append_cons us t vs
  rw [← hlines, Text.unlines_lines] at heq
  have hus : ∀ u ∈ us, '\n' ∉ u := by
    intro u hu
    apply hbreak
    rw [hlines]
    exact List.mem_append_left _ hu
  have hbytes := Text.byteLength_terminated us
  refine ⟨Text.terminated us, after, heq, ?_, ?_, ?_, Text.getLast?_terminated us, hafter⟩
  · simp only [span, Text.byteLength_append, hbytes, Nat.zero_add]
  · show 1 + us.length = _
    rw [Text.count_terminated hus, Nat.add_comm]
  · apply hbreak
    rw [hlines]
    simp

theorem pairwise_consecutive (first start : Nat) (ts : List Text) :
    (consecutive first start ts).Pairwise fun l m => l.number < m.number := by
  induction ts generalizing first start with
  | nil => exact .nil
  | cons t ts ih =>
    refine List.pairwise_cons.2 ⟨?_, ih _ _⟩
    intro line hline
    obtain ⟨us, u, vs, -, rfl⟩ := exists_of_mem_consecutive hline
    show first < first + 1 + us.length
    omega

end Line

/-! ### Lines of errors -/

namespace Scan

/-- The headers of blocks are lines of the source, in their order. -/
theorem sublist_headers {lines : List Line} {blocks : List SourceBlock} {stop : Option Fault}
    (h : Scan lines blocks stop) : (blocks.map SourceBlock.header).Sublist lines := by
  induction h with
  | done => exact .slnil
  | skip _ _ ih => exact .cons _ ih
  | line _ _ ih => exact .cons_cons _ ih
  | @block line lines block rest _ _ _ _ _ eq closed _ ih =>
    -- The block holds its header at least, so the scan goes on inside `lines`.
    have hrest : rest.Sublist lines := by
      cases block with
      | nil => exact absurd rfl closed.ne_nil
      | cons first others =>
        rw [List.cons_append, List.cons.injEq] at eq
        rw [eq.2]
        exact List.sublist_append_right others rest
    exact .cons_cons line (ih.trans hrest)
  | unterminated _ _ => exact List.nil_sublist _

theorem mem_of_stop {lines : List Line} {blocks : List SourceBlock} {fault : Fault}
    (h : Scan lines blocks (some fault)) : fault.line ∈ lines := by
  generalize hstop : some fault = stop at h
  induction h with
  | done => cases hstop
  | skip _ _ ih => exact List.mem_cons_of_mem _ (ih hstop)
  | line _ _ ih => exact List.mem_cons_of_mem _ (ih hstop)
  | block _ eq _ _ ih =>
    rw [eq]
    exact List.mem_append_right _ (ih hstop)
  | unterminated _ _ =>
    cases hstop
    exact List.mem_cons_self

end Scan

theorem SourceBlock.HasError.line_eq {previous : PreviousOutput} {b : SourceBlock} {error : SyntaxError}
    (h : b.HasError previous error) : error.line = b.header := by
  cases h <;> rfl

/-- A source that cannot be read has a block without an end, or malformed blocks, one for each error. -/
theorem exists_scan_of_error {source previous : Text} {errors : SyntaxErrors}
    (h : readProgram source previous = .error errors) :
    ∃ blocks stop, Scan (Line.ofSource source) blocks stop ∧
      ((∃ fault, stop = some fault ∧ errors = [.inSource fault]) ∨
        errors ≠ [] ∧ List.Forall₂ (SourceBlock.HasError (.ofText previous))
          (blocks.filter (SourceBlock.IsMalformed (.ofText previous))) errors) := by
  obtain ⟨blocks, stop, hscan⟩ := Scan.exists_scan (Line.ofSource source)
  refine ⟨blocks, stop, hscan, ?_⟩
  rw [Reader.readProgram_eq hscan] at h
  cases stop with
  | some fault => exact Or.inl ⟨fault, rfl, (Except.error.inj h).symm⟩
  | none =>
    have hall := Reader.forall₂_errors (.ofText previous) blocks
    dsimp only at h
    rw [Reader.collect_eq] at h
    split at h
    · cases h
    · rename_i hne
      obtain rfl := Except.error.inj h
      exact Or.inr ⟨hne, hall⟩

theorem SourceBlock.map_line_eq {previous : PreviousOutput} {blocks : List SourceBlock}
    {errors : SyntaxErrors} (h : List.Forall₂ (HasError previous) blocks errors) :
    errors.map SyntaxError.line = blocks.map header :=
  (map_eq_map_of_forall₂ h fun hb => hb.line_eq.symm).symm

/-- The lines of the errors are lines of the source, in their order. -/
theorem sublist_lines_of_error {source previous : Text} {errors : SyntaxErrors}
    (h : readProgram source previous = .error errors) :
    errors ≠ [] ∧ (errors.map SyntaxError.line).Sublist (Line.ofSource source) := by
  obtain ⟨blocks, stop, hscan, ⟨fault, rfl, rfl⟩ | ⟨hne, hall⟩⟩ := exists_scan_of_error h
  · exact ⟨List.cons_ne_nil _ _, List.singleton_sublist.2 hscan.mem_of_stop⟩
  · rw [SourceBlock.map_line_eq hall]
    exact ⟨hne, (List.filter_sublist.map SourceBlock.header).trans hscan.sublist_headers⟩

/-- A pinning error names a function of its line, and its cause is in the last output. -/
theorem pinning_of_error {source previous : Text} {errors : SyntaxErrors}
    (h : readProgram source previous = .error errors) {name : Text} {line : Line} {cause : Fault}
    (hmem : .pinning name line cause ∈ errors) :
    Header.Names line.text name ∧ cause.line ∈ Line.ofSource previous := by
  obtain ⟨blocks, stop, -, ⟨fault, -, rfl⟩ | ⟨-, hall⟩⟩ := exists_scan_of_error h
  · simp at hmem
  · obtain ⟨b, -, hb⟩ := exists_of_forall₂_of_mem hall hmem
    cases hb with
    | pinning _ names _ lookup =>
      exact ⟨names, PreviousOutput.mem_of_function?_eq_error lookup⟩

/-! ### Messages -/

theorem Fault.not_mem_message {fault : Fault} (h : '\n' ∉ fault.line.text) : '\n' ∉ fault.message := by
  have hlead : ∀ complaint : Complaint, '\n' ∉ complaint.lead := by
    intro complaint
    cases complaint with
    | unterminated block => cases block <;> decide +kernel
    | _ => decide +kernel
  exact List.not_mem_append (hlead fault.complaint) h

theorem Header.Names.subset {header name : Text} (h : Names header name) : name ⊆ header := by
  obtain ⟨before, between, inner, hopens, rfl, -⟩ := h
  intro c hc
  rw [hopens.eq]
  have hbetween : c ∈ between := Text.mem_of_mem_trim hc
  simp [hbetween]

theorem not_mem_message_of_error {source previous : Text} {errors : SyntaxErrors}
    (h : readProgram source previous = .error errors) {error : SyntaxError} (hmem : error ∈ errors) :
    '\n' ∉ error.message := by
  have hline : '\n' ∉ error.line.text :=
    Line.not_mem_of_mem_ofSource ((sublist_lines_of_error h).2.subset (List.mem_map_of_mem hmem))
  cases error with
  | inSource fault => exact Fault.not_mem_message hline
  | pinning name line cause =>
    obtain ⟨hnames, hcause⟩ := pinning_of_error h hmem
    have hname : '\n' ∉ name := fun hc => hline (hnames.subset hc)
    have hmessage := Fault.not_mem_message (Line.not_mem_of_mem_ofSource hcause)
    have hlead : '\n' ∉ ("Failed to pin function `" : Text) := by decide +kernel
    have hcolon : '\n' ∉ ("`: " : Text) := by decide
    exact List.not_mem_append (List.not_mem_append (List.not_mem_append hlead hname) hcolon) hmessage

theorem lines_message_of_error {source previous : Text} {errors : SyntaxErrors}
    (h : readProgram source previous = .error errors) :
    errors.message.lines = errors.map SyntaxError.message :=
  Text.lines_unlines_map (fun _ hmem => not_mem_message_of_error h hmem) (sublist_lines_of_error h).1

/-! ### Diagnostics -/

/-- The diagnostic reports the error as such, with its message and its place, for the given file. -/
structure Diagnostic.Reports (file : Option Text) (error : SyntaxError) (d : Diagnostic) : Prop where
  level : d.level = .error
  message : d.message = error.message
  span : d.span = some error.line.span
  file : d.file = file

theorem SyntaxError.reports_inFile (file : Option Text) (error : SyntaxError) :
    (error.diagnostic.inFile file).Reports file error := by
  have hfile : (file <|> none) = file := by cases file <;> rfl
  cases error with
  | inSource fault =>
    obtain ⟨complaint, line⟩ := fault
    cases complaint with
    | unterminated block => cases block <;> exact ⟨rfl, rfl, rfl, hfile⟩
    | _ => exact ⟨rfl, rfl, rfl, hfile⟩
  | pinning name line cause => exact ⟨rfl, rfl, rfl, hfile⟩

theorem CompileError.reports_diagnostics (file : Option Text) (errors : SyntaxErrors) :
    List.Forall₂ (Diagnostic.Reports file) errors ((CompileError.program errors).diagnostics file) := by
  change List.Forall₂ _ errors ((errors.map SyntaxError.diagnostic).map (Diagnostic.inFile file))
  rw [List.forall₂_map_right_iff, List.forall₂_map_right_iff, List.forall₂_same]
  exact fun error _ => error.reports_inFile file

theorem Diagnostic.excerpt?_eq_draw {d : Diagnostic} {span : Span} {source : Text}
    (hspan : d.span = some span) (hle : span.start ≤ span.stop) (hstop : span.stop ≤ source.byteLength)
    (listingColours colours : Bool) :
    d.excerpt? listingColours colours source = some (Excerpt.draw colours source d span) := by
  have hinside : ¬ source.byteLength < span.stop := by omega
  have hforward : ¬ span.stop < span.start := by omega
  simp only [excerpt?, hspan, if_neg hinside, if_neg hforward]

/-- Every reported location is right.  The errors of a source are about lines of it, one after the other,
and the cause of a pinning error is about a line of the last output.  The message has one line for each
error; the diagnostics are one for each error, in order, and can all be drawn beside the source. -/
theorem readProgram_errors_located {source previous : Text} {errors : SyntaxErrors}
    (h : readProgram source previous = .error errors) :
    errors ≠ [] ∧
      (∀ error ∈ errors, error.line.IsIn source ∧
        error.line.span.start ≤ error.line.span.stop ∧
        error.line.span.stop ≤ source.byteLength) ∧
      errors.Pairwise (fun e f => e.line.number < f.line.number) ∧
      (∀ name line cause, .pinning name line cause ∈ errors → cause.line.IsIn previous) ∧
      errors.message.lines = errors.map SyntaxError.message ∧
      ∀ file, List.Forall₂ (fun error d => d.Reports file error ∧
          ∀ listingColours colours, d.excerpt? listingColours colours source =
            some (Excerpt.draw colours source d error.line.span))
        errors ((CompileError.program errors).diagnostics file) := by
  obtain ⟨hne, hsub⟩ := sublist_lines_of_error h
  have hin : ∀ error ∈ errors, error.line.IsIn source := fun error hmem =>
    Line.isIn_of_mem_ofSource (hsub.subset (List.mem_map_of_mem hmem))
  refine ⟨hne, ?_, ?_, ?_, lines_message_of_error h, ?_⟩
  · exact fun error hmem => ⟨hin error hmem, (hin error hmem).span_le⟩
  · have hlines := (Line.pairwise_consecutive 1 0 source.lines).sublist hsub
    rwa [List.pairwise_map] at hlines
  · intro name line cause hmem
    exact Line.isIn_of_mem_ofSource (pinning_of_error h hmem).2
  · intro file
    have hreports := CompileError.reports_diagnostics file errors
    have hboth := (List.forall₂_and_left errors _).2 ⟨hin, hreports⟩
    refine hboth.imp fun error d ⟨hline, hd⟩ => ⟨hd, fun listingColours colours => ?_⟩
    exact Diagnostic.excerpt?_eq_draw hd.span hline.span_le.1 hline.span_le.2 listingColours colours

theorem readProgram_errors_located_of_two_texts :
    let source : Text := "// é\r\nfunction (): void \x7b\n\x7d\npinned function main(): void \x7b\n\x7d"
    let previous : Text := "\nfunction main() \x7b"
    let cause : Fault := ⟨.unterminated .function, ⟨2, 1, "function main() \x7b"⟩⟩
    let errors : SyntaxErrors := [.inSource ⟨.missingFunctionName, ⟨2, 7, "function (): void \x7b"⟩⟩,
      .pinning "main" ⟨4, 29, "pinned function main(): void \x7b"⟩ cause]
    readProgram source previous = .error errors ∧
      (∀ error ∈ errors, error.line.IsIn source) ∧ cause.line.IsIn previous ∧
      errors.message.lines = errors.map SyntaxError.message := by
  intro source previous cause errors
  have hread : readProgram source previous = .error errors := by decide +kernel
  obtain ⟨-, hin, -, hcause, hmessage, -⟩ := readProgram_errors_located hread
  refine ⟨hread, fun error hmem => (hin error hmem).1, ?_, hmessage⟩
  exact hcause "main" ⟨4, 29, "pinned function main(): void \x7b"⟩ cause (by simp [errors])

end StubCompiler
