import StubCompiler.Proofs.Outcome
import StubCompiler.Proofs.Output

/-!
# The functions of an output

An output holds one list of functions, and at most one fault behind the last of them, whatever name is
looked for.  The search returns the first function of the name; if there is none it returns the fault.
A body that was found once is found again wherever it stands, as long as no header comes before it.
-/

namespace StubCompiler.PreviousOutput

/-! ### The list of functions -/

/-- A function of an output: the lines between it and the function before, its name, and its lines. -/
structure Entry where
  skipped : List Line
  name : Text
  lines : List Line
deriving DecidableEq, Repr

namespace Entry

def body (e : Entry) : Text := Line.unlines e.lines

def allLines (entries : List Entry) : List Line := entries.flatMap fun e => e.skipped ++ e.lines

theorem allLines_cons (e : Entry) (entries : List Entry) :
    allLines (e :: entries) = e.skipped ++ e.lines ++ allLines entries := by
  rw [allLines, List.flatMap_cons, ← allLines]

/-- What a list of functions, and the fault behind it, say about a name. -/
def lookup (entries : List Entry) (fault : Option Fault) (name : Text) : Except Fault (Option Text) :=
  match entries.find? fun e => e.name = name with
  | some e => .ok (some e.body)
  | none => fault.elim (.ok none) .error

theorem lookup_nil (fault : Option Fault) (name : Text) :
    lookup [] fault name = fault.elim (.ok none) .error := rfl

theorem lookup_cons (e : Entry) (entries : List Entry) (fault : Option Fault) (name : Text) :
    lookup (e :: entries) fault name =
      if e.name = name then .ok (some e.body) else lookup entries fault name := by
  unfold lookup
  rw [List.find?_cons]
  by_cases hname : e.name = name
  · simp [hname]
  · simp [hname]

/-- A look-up fails for one reason only. -/
theorem eq_some_of_lookup_eq_error {entries : List Entry} {fault : Option Fault} {name : Text}
    {cause : Fault} (h : lookup entries fault name = .error cause) : fault = some cause := by
  induction entries with
  | nil =>
    rw [lookup_nil] at h
    cases fault with
    | none => cases h
    | some fault => exact congrArg some (Except.error.inj h)
  | cons e entries ih =>
    rw [lookup_cons] at h
    split at h
    · cases h
    · exact ih h

/-- No header is skipped.  The lines start with a header that has the name, and their last one is the
only one that closes the function. -/
structure WellFormed (e : Entry) : Prop where
  skipped : ∀ l ∈ e.skipped, isHeader l = false
  header : ∃ first ∈ e.lines.head?, isHeader first = true ∧ Header.name? first.text = some e.name
  closed : Delimiter.brace.Closed e.lines

end Entry

/-- What is left behind the last function: no header at all, or a first header that cannot be read, and
the fault about it. -/
inductive Remainder : List Line → Option Fault → Prop where
  | clean {lines : List Line} (quiet : ∀ l ∈ lines, isHeader l = false) : Remainder lines none
  | unterminated {skipped lines : List Line} {header : Line}
      (quiet : ∀ l ∈ skipped, isHeader l = false) (starts : isHeader header = true)
      (unclosed : ∀ l ∈ lines, l.kind ≠ .close) :
      Remainder (skipped ++ header :: lines) (some ⟨.unterminated .function, header⟩)
  | unnamed {skipped lines : List Line} {header : Line}
      (quiet : ∀ l ∈ skipped, isHeader l = false) (starts : isHeader header = true)
      (closed : ∃ l ∈ lines, l.kind = .close) (name : Header.name? header.text = none) :
      Remainder (skipped ++ header :: lines) (some ⟨.missingFunctionName, header⟩)

/-! ### One search for all names -/

theorem search_skipped {skipped : List Line} (h : ∀ l ∈ skipped, isHeader l = false) (name : Text)
    (lines : List Line) : search name (skipped ++ lines) = search name lines := by
  induction skipped with
  | nil => rfl
  | cons line skipped ih =>
    have hline : isHeader line = false := h line (by simp)
    have hrest := ih fun l hl => h l (List.mem_cons_of_mem line hl)
    rw [List.cons_append, search_skip hline, hrest]

theorem Entry.WellFormed.search_eq {e : Entry} (h : e.WellFormed) (name : Text) (rest : List Line) :
    search name (e.skipped ++ e.lines ++ rest) =
      if e.name = name then .ok (some e.body) else search name rest := by
  obtain ⟨first, hfirst, hheader, hname⟩ := h.header
  have hblock := Delimiter.block?_append h.closed rest
  rw [List.append_assoc, search_skipped h.skipped]
  cases hlines : e.lines with
  | nil => exact absurd hlines h.closed.ne_nil
  | cons line lines =>
    rw [hlines] at hfirst hblock
    obtain rfl : line = first := by simpa using hfirst
    rw [List.cons_append] at hblock ⊢
    rw [search_header hheader hblock, hname, Entry.body, hlines]

theorem not_closes_of_isHeader {line : Line} (h : isHeader line = true) :
    Delimiter.brace.closes line = false := by
  rw [isHeader, Bool.and_eq_true] at h
  cases hkind : line.kind with
  | close =>
    rw [hkind] at h
    exact absurd h.1 (by decide)
  | _ => simp [Delimiter.closes, hkind]

theorem block?_header_eq_none_iff {header : Line} (h : isHeader header = true) {lines : List Line} :
    Delimiter.brace.block? (header :: lines) = none ↔ ∀ l ∈ lines, l.kind ≠ .close := by
  rw [Delimiter.block?_eq_none_iff, List.forall_mem_cons, and_iff_right (not_closes_of_isHeader h)]
  simp only [Delimiter.closes, beq_eq_false_iff_ne]

theorem Remainder.search_eq {rest : List Line} {fault : Option Fault} (h : Remainder rest fault)
    (name : Text) :
    search name rest = fault.elim (.ok none) .error := by
  cases h with
  | clean quiet =>
    have hall := search_skipped quiet name []
    rw [List.append_nil] at hall
    rw [hall, search, Option.elim_none]
  | unterminated quiet starts unclosed =>
    rw [search_skipped quiet,
      search_unterminated starts ((block?_header_eq_none_iff starts).2 unclosed), Option.elim_some]
  | @unnamed skipped lines header quiet starts closed hname =>
    cases hblock : Delimiter.brace.block? (header :: lines) with
    | none =>
      obtain ⟨l, hl, hclose⟩ := closed
      exact absurd hclose ((block?_header_eq_none_iff starts).1 hblock l hl)
    | some parts => rw [search_skipped quiet, search_header starts hblock, hname, Option.elim_some]

theorem search_allLines {entries : List Entry} (h : ∀ e ∈ entries, e.WellFormed) {rest : List Line}
    {fault : Option Fault} (hrest : Remainder rest fault) (name : Text) :
    search name (Entry.allLines entries ++ rest) = Entry.lookup entries fault name := by
  induction entries with
  | nil =>
    exact hrest.search_eq name
  | cons e entries ih =>
    have hown := (h e (by simp)).search_eq name (Entry.allLines entries ++ rest)
    have htail := ih fun other hother => h other (List.mem_cons_of_mem e hother)
    rw [Entry.allLines_cons, List.append_assoc, hown, htail, Entry.lookup_cons]

theorem Remainder.line_eq {rest : List Line} {fault : Option Fault} (h : Remainder rest fault) :
    fault.map Fault.line = rest.find? isHeader := by
  have hfirst : ∀ {skipped lines : List Line} {header : Line}, (∀ l ∈ skipped, isHeader l = false) →
      isHeader header = true → (skipped ++ header :: lines).find? isHeader = some header := by
    intro skipped lines header hquiet hstarts
    have hnone : skipped.find? isHeader = none := by simpa using hquiet
    rw [List.find?_append, hnone, List.find?_cons_of_pos hstarts, Option.none_or]
  cases h with
  | clean quiet =>
    have hnone : rest.find? isHeader = none := by simpa using quiet
    rw [hnone, Option.map_none]
  | unterminated quiet starts _ => exact (hfirst quiet starts).symm
  | unnamed quiet starts _ _ => exact (hfirst quiet starts).symm

/-! ### Every output has its list -/

theorem exists_first_header {lines : List Line} (h : ¬ ∀ l ∈ lines, isHeader l = false) :
    ∃ skipped header rest, lines = skipped ++ header :: rest ∧
      (∀ l ∈ skipped, isHeader l = false) ∧ isHeader header = true := by
  have hsome : (lines.find? isHeader).isSome = true := by
    rw [List.find?_isSome]
    simpa using h
  obtain ⟨header, hheader⟩ := Option.isSome_iff_exists.1 hsome
  obtain ⟨hstarts, skipped, rest, hlines, hquiet⟩ := List.find?_eq_some_iff_append.1 hheader
  exact ⟨skipped, header, rest, hlines, by simpa using hquiet, hstarts⟩

theorem exists_entries (lines : List Line) :
    ∃ entries rest fault, lines = Entry.allLines entries ++ rest ∧ (∀ e ∈ entries, e.WellFormed) ∧
      Remainder rest fault := by
  induction hn : lines.length using Nat.strongRecOn generalizing lines with
  | _ n ih =>
    by_cases hquiet : ∀ l ∈ lines, isHeader l = false
    · exact ⟨[], lines, none, rfl, by simp, .clean hquiet⟩
    · obtain ⟨skipped, header, after, rfl, hskipped, hstarts⟩ := exists_first_header hquiet
      cases hblock : Delimiter.brace.block? (header :: after) with
      | none =>
        have hopen := (block?_header_eq_none_iff hstarts).1 hblock
        exact ⟨[], _, _, rfl, by simp, .unterminated hskipped hstarts hopen⟩
      | some parts =>
        obtain ⟨block, tail⟩ := parts
        cases hname : Header.name? header.text with
        | none =>
          have hclose : ∃ l ∈ after, l.kind = .close := by
            by_contra hno
            push Not at hno
            rw [(block?_header_eq_none_iff hstarts).2 hno] at hblock
            cases hblock
          exact ⟨[], _, _, rfl, by simp, .unnamed hskipped hstarts hclose hname⟩
        | some name =>
          have hlines : header :: after = block ++ tail := Delimiter.eq_of_block? hblock
          have hshort : tail.length < n := by
            have hlt := Delimiter.length_lt_of_block? hblock
            rw [← hn, List.length_append]
            omega
          obtain ⟨entries, rest, fault, htail, hentries, hrest⟩ := ih _ hshort tail rfl
          refine ⟨⟨skipped, name, block⟩ :: entries, rest, fault, ?_, ?_, hrest⟩
          · rw [hlines, Entry.allLines_cons, List.append_assoc, List.append_assoc, ← htail]
          · intro e he
            rcases List.mem_cons.1 he with rfl | he
            · refine ⟨hskipped, ⟨header, ?_, hstarts, hname⟩, Delimiter.closed_of_block? hblock⟩
              -- The block is not empty, so its first line is the header.
              cases block with
              | nil => exact absurd rfl (Delimiter.ne_nil_of_block? hblock)
              | cons first others =>
                rw [List.cons_append, List.cons.injEq] at hlines
                rw [hlines.1]
                rfl
            · exact hentries e he

theorem exists_index (text : Text) :
    ∃ entries rest fault, Line.ofSource text = Entry.allLines entries ++ rest ∧
      (∀ e ∈ entries, e.WellFormed) ∧ Remainder rest fault ∧
      ∀ name, (ofText text).function? name = Entry.lookup entries fault name := by
  obtain ⟨entries, rest, fault, hlines, hentries, hrest⟩ := exists_entries (Line.ofSource text)
  refine ⟨entries, rest, fault, hlines, hentries, hrest, ?_⟩
  intro name
  rw [function?, ofText, hlines]
  exact search_allLines hentries hrest name

theorem mem_of_function?_eq_error {text name : Text} {cause : Fault}
    (h : (ofText text).function? name = .error cause) : cause.line ∈ Line.ofSource text := by
  obtain ⟨entries, rest, fault, hlines, -, hrest, hfind⟩ := exists_index text
  rw [hfind] at h
  obtain rfl := Entry.eq_some_of_lookup_eq_error h
  have hfirst : rest.find? isHeader = some cause.line := hrest.line_eq.symm
  rw [hlines]
  exact List.mem_append_right _ (List.mem_of_find?_eq_some hfirst)

/-- What the search finds does not depend on what is asked.  The lines of an output are those of its
functions, each with the lines skipped before it, and a remainder.  Whatever the name, the search returns
the body of the first function of that name; without one it returns the fault of the remainder, which is
about its first header, or finds nothing if there is no header left. -/
theorem function?_eq_first_entry (text : Text) :
    ∃ (entries : List Entry) (rest : List Line) (fault : Option Fault),
      Line.ofSource text = Entry.allLines entries ++ rest ∧
      (∀ e ∈ entries, e.WellFormed) ∧
      Remainder rest fault ∧
      fault.map Fault.line = rest.find? isHeader ∧
      (∀ name, (ofText text).function? name = Entry.lookup entries fault name) ∧
      ∀ name other cause cause', (ofText text).function? name = .error cause →
        (ofText text).function? other = .error cause' → cause = cause' := by
  obtain ⟨entries, rest, fault, hlines, hentries, hrest, hfind⟩ := exists_index text
  refine ⟨entries, rest, fault, hlines, hentries, hrest, hrest.line_eq, hfind, ?_⟩
  intro name other cause cause' hfail hfail'
  rw [hfind] at hfail hfail'
  have hcause := Entry.eq_some_of_lookup_eq_error hfail
  have hcause' := Entry.eq_some_of_lookup_eq_error hfail'
  exact Option.some.inj (hcause.symm.trans hcause')

/-! ### A body in another text -/

theorem IsFunctionBlock.search_eq {name block : Text} (h : IsFunctionBlock name block) {lines : List Line}
    (hlines : lines.map Line.text = block.lines) (rest : List Line) :
    search name (lines ++ rest) = .ok (some block) := by
  have hsame : (Line.ofSource block).map Line.text = lines.map Line.text := by
    rw [hlines, Line.map_text_ofSource]
  obtain ⟨first, others, hblock, hheader, hname⟩ := h.exists_lines
  have hentry : (⟨[], name, lines⟩ : Entry).WellFormed := by
    refine ⟨by simp, ?_, h.closed.congr hsame⟩
    obtain ⟨line, tail, rfl, rfl, -⟩ := List.map_eq_cons_iff.1 (hlines.trans hblock)
    exact ⟨line, rfl, by rw [isHeader_eq]; exact hheader, hname⟩
  have hbody : (⟨[], name, lines⟩ : Entry).body = block := by
    rw [Entry.body, Line.unlines, hlines, Text.unlines_lines]
  have hsearch := hentry.search_eq name rest
  rw [if_pos rfl, hbody] at hsearch
  exact hsearch

/-- A body that was found is found again: by itself, and behind any text without a header, whatever comes
after it. -/
theorem function?_frozen {text name body : Text}
    (h : (ofText text).function? name = .ok (some body)) :
    (ofText body).function? name = .ok (some body) ∧
      ∀ before after : Text, (∀ l ∈ Line.ofSource before, isHeader l = false) →
        (ofText (before ++ "\n\n" ++ body ++ "\n\n" ++ after)).function? name = .ok (some body) := by
  have hblock : IsFunctionBlock name body :=
    isFunctionBlock_of_search (fun l hl => Line.not_mem_of_mem_ofSource hl) h
  constructor
  · have halone := hblock.search_eq (Line.map_text_ofSource body) []
    rw [List.append_nil] at halone
    exact halone
  · intro before after hbefore
    have hgap : ("\n\n" : Text) = '\n' :: '\n' :: [] := rfl
    have hjoin : before ++ "\n\n" ++ body ++ "\n\n" ++ after =
        before ++ '\n' :: ([] ++ '\n' :: (body ++ '\n' :: '\n' :: after)) := by
      simp [hgap]
    have htexts : (Line.ofSource (before ++ "\n\n" ++ body ++ "\n\n" ++ after)).map Line.text =
        before.lines ++ ([] :: (body.lines ++ Text.lines ('\n' :: after))) := by
      rw [Line.map_text_ofSource, hjoin, Text.lines_append_newline, Text.lines_append_newline,
        Text.lines_append_newline]
      rfl
    obtain ⟨xs, others, hlines, hxs, hothers⟩ := List.map_eq_append_iff.1 htexts
    obtain ⟨blank, printed, rfl, hblank, hprinted⟩ := List.map_eq_cons_iff.1 hothers
    obtain ⟨own, rest, rfl, hown, -⟩ := List.map_eq_append_iff.1 hprinted
    -- Whether a line is a header depends on its text only, so none is in front of the body.
    have hquiet : ∀ l ∈ xs, isHeader l = false := by
      intro l hl
      have hmem : l.text ∈ (Line.ofSource before).map Line.text := by
        rw [Line.map_text_ofSource, ← hxs]
        exact List.mem_map_of_mem hl
      obtain ⟨l', hl', htext⟩ := List.mem_map.1 hmem
      rw [isHeader_eq, ← htext, ← isHeader_eq]
      exact hbefore l' hl'
    rw [function?, ofText, hlines, search_skipped hquiet, search_blank hblank,
      hblock.search_eq hown rest]

theorem function?_frozen_of_header_in_body :
    let text : Text := "function g() \x7b\n\x7d\nfunction f(a: A): B \x7b\nfunction g() \x7b\n  \x7d\nmain();"
    let body : Text := "function f(a: A): B \x7b\nfunction g() \x7b\n  \x7d"
    let before : Text := "type T = \x7b\n  function: f;\n\x7d"
    let after : Text := "function f() \x7b\n\x7d\nfunction \x7b"
    (ofText text).function? "f" = .ok (some body) ∧
      (∀ l ∈ Line.ofSource before, isHeader l = false) ∧
      (ofText (before ++ "\n\n" ++ body ++ "\n\n" ++ after)).function? "f" = .ok (some body) := by
  intro text body before after
  have hfound : (ofText text).function? "f" = .ok (some body) := by decide +kernel
  have hquiet : ∀ l ∈ Line.ofSource before, isHeader l = false := by decide
  exact ⟨hfound, hquiet, (function?_frozen hfound).2 before after hquiet⟩

end StubCompiler.PreviousOutput
