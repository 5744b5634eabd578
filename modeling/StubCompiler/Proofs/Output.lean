import StubCompiler.Generation
import StubCompiler.Proofs.Blocks

/-!
# Searching an output

An output is a list of blocks with empty lines between them.  The search for a pinned function passes
over a block without headers, and meets any other block at its first header: there it takes the rest
of the block if the name is right, goes on after the block if it is another name, and stops with a
fault if there is no name.  So its result can be told from the blocks (`function?_assemble`).
-/

namespace StubCompiler.PreviousOutput

/-! ### Headers in a block -/

/-- A line with this text is the header of a function of the output. -/
def isHeaderText (t : Text) : Bool := isHeader ⟨0, 0, t⟩

theorem isHeader_eq (line : Line) : isHeader line = isHeaderText line.text := by
  have hkind : line.kind = (⟨0, 0, line.text⟩ : Line).kind := Line.kind_congr rfl
  have hstart : line.isUnindented = (⟨0, 0, line.text⟩ : Line).isUnindented :=
    Line.isUnindented_congr rfl
  rw [isHeaderText, isHeader, isHeader, hkind, hstart]

/-- The lines of a block from its first header on. -/
def sighting (block : Text) : List Text := block.lines.dropWhile fun t => !isHeaderText t

/-- The name in the first header of a block, if the block has a header and the header has a name. -/
def headerName (block : Text) : Option (Option Text) := (sighting block).head?.map Header.name?

/-- The search for `name` ends at the block. -/
def stops (name block : Text) : Bool :=
  headerName block = some none || headerName block = some (some name)

/-- The block is passed over, or taken whole from its first header on. -/
def IsSearchable (block : Text) : Prop :=
  sighting block = [] ∨ Delimiter.brace.Closed (Line.ofSource block)

/-- The search, told from the blocks of an output. -/
def find (name : Text) (blocks : List Text) : Except Complaint (Option Text) :=
  match blocks.find? (stops name) with
  | none => .ok none
  | some block =>
    if headerName block = some none then .error .missingFunctionName
    else .ok (some (Text.unlines (sighting block)))

/-! ### One block -/

theorem search_skip {line : Line} (h : isHeader line = false) (name : Text) (lines : List Line) :
    search name (line :: lines) = search name lines := by
  rw [search, h]
  rfl

theorem search_header {line : Line} (h : isHeader line = true) {lines block rest : List Line}
    (hb : Delimiter.brace.block? (line :: lines) = some (block, rest)) (name : Text) :
    search name (line :: lines) =
      match Header.name? line.text with
      | none => .error ⟨.missingFunctionName, line⟩
      | some found => if found = name then .ok (some (Line.unlines block)) else search name rest := by
  rw [search, if_pos h]
  split
  · rename_i heq
    rw [hb] at heq
    cases heq
  · rename_i b r heq
    rw [hb] at heq
    obtain ⟨rfl, rfl⟩ : block = b ∧ rest = r := by simpa using heq
    rfl

theorem search_unterminated {line : Line} (h : isHeader line = true) {lines : List Line}
    (hb : Delimiter.brace.block? (line :: lines) = none) (name : Text) :
    search name (line :: lines) = .error ⟨.unterminated .function, line⟩ := by
  rw [search, if_pos h]
  split
  · rfl
  · rename_i heq
    rw [hb] at heq
    cases heq

/-- What the search does with the lines of one block, in terms of the lines after it. -/
theorem search_append {xs : List Line}
    (h : xs.dropWhile (fun l => !isHeader l) = [] ∨ Delimiter.brace.Closed xs) (name : Text)
    (rest : List Line) :
    search name (xs ++ rest) =
      match xs.dropWhile fun l => !isHeader l with
      | [] => search name rest
      | header :: tail =>
        match Header.name? header.text with
        | none => .error ⟨.missingFunctionName, header⟩
        | some found =>
          if found = name then .ok (some (Line.unlines (header :: tail))) else search name rest := by
  induction xs with
  | nil => rfl
  | cons line xs ih =>
    cases hline : isHeader line with
    | false =>
      have hdrop : (line :: xs).dropWhile (fun l => !isHeader l) =
          xs.dropWhile fun l => !isHeader l := by
        rw [List.dropWhile_cons, hline]
        rfl
      have hrest : xs.dropWhile (fun l => !isHeader l) = [] ∨ Delimiter.brace.Closed xs := by
        rw [hdrop] at h
        rcases h with h | h
        · exact Or.inl h
        · by_cases hne : xs = []
          · exact Or.inl (by rw [hne]; rfl)
          · exact Or.inr ((Delimiter.closed_cons_iff hne).1 h).2
      rw [List.cons_append, search_skip hline, ih hrest, hdrop]
    | true =>
      have hkeep : (line :: xs).dropWhile (fun l => !isHeader l) = line :: xs := by
        rw [List.dropWhile_cons, hline]
        rfl
      rw [hkeep] at h ⊢
      have hclosed : Delimiter.brace.Closed (line :: xs) := h.resolve_left (List.cons_ne_nil line xs)
      exact search_header hline (Delimiter.block?_append hclosed rest) name

theorem search_block {block : Text} (h : IsSearchable block) {xs : List Line}
    (hxs : xs.map Line.text = block.lines) (name : Text) (rest : List Line) :
    (search name (xs ++ rest)).mapError Fault.complaint =
      if stops name block then find name [block]
      else (search name rest).mapError Fault.complaint := by
  have hsight : (xs.dropWhile fun l => !isHeader l).map Line.text = sighting block := by
    have hp : (fun l => !isHeader l) = (fun t => !isHeaderText t) ∘ Line.text := by
      funext l
      rw [isHeader_eq]
      rfl
    rw [sighting, ← hxs, List.dropWhile_map, hp]
  have hxs' : xs.dropWhile (fun l => !isHeader l) = [] ∨ Delimiter.brace.Closed xs := by
    rcases h with h | h
    · exact Or.inl (List.map_eq_nil_iff.1 (hsight.trans h))
    · exact Or.inr (h.congr (by rw [Line.map_text_ofSource, hxs]))
  rw [search_append hxs' name rest]
  cases hdrop : xs.dropWhile fun l => !isHeader l with
  | nil =>
    rw [hdrop] at hsight
    have hname : headerName block = none := by
      rw [headerName, ← hsight]
      rfl
    simp [stops, hname]
  | cons header tail =>
    rw [hdrop] at hsight
    have hname : headerName block = some (Header.name? header.text) := by
      rw [headerName, ← hsight]
      rfl
    dsimp only
    cases hfound : Header.name? header.text with
    | none =>
      rw [hfound] at hname
      have hstops : stops name block = true := by simp [stops, hname]
      have hfind : find name [block] = .error .missingFunctionName := by
        simp [stops, find, hname]
      rw [if_pos hstops, hfind]
      rfl
    | some found =>
      rw [hfound] at hname
      by_cases heq : found = name
      · subst heq
        have hstops : stops found block = true := by simp [stops, hname]
        have hfind : find found [block] = .ok (some (Text.unlines (sighting block))) := by
          simp [stops, find, hname]
        dsimp only
        rw [if_pos rfl, if_pos hstops, hfind, ← hsight]
        rfl
      · simp [stops, hname, heq]

/-! ### Whole outputs -/

theorem find_cons (name block : Text) (blocks : List Text) :
    find name (block :: blocks) =
      if stops name block then find name [block] else find name blocks := by
  cases hb : stops name block with
  | true => simp [find, hb]
  | false => simp [find, hb]

theorem search_blank {line : Line} (h : line.text = []) (name : Text) (lines : List Line) :
    search name (line :: lines) = search name lines := by
  have hline : isHeader line = false := by
    rw [isHeader_eq, h]
    decide
  exact search_skip hline name lines

theorem search_blocks {blocks : List Text} (h : ∀ t ∈ blocks, IsSearchable t) {lines : List Line}
    (hlines : lines.map Line.text = blocks.flatMap fun t => [] :: t.lines) (name : Text) :
    (search name lines).mapError Fault.complaint = find name blocks := by
  induction blocks generalizing lines with
  | nil =>
    obtain rfl : lines = [] := List.map_eq_nil_iff.1 hlines
    rw [search]
    rfl
  | cons block blocks ih =>
    rw [List.flatMap_cons, List.cons_append] at hlines
    obtain ⟨blank, printed, rfl, hblank, hprinted⟩ := List.map_eq_cons_iff.1 hlines
    obtain ⟨own, rest, rfl, hown, hrest⟩ := List.map_eq_append_iff.1 hprinted
    have htail := ih (fun t ht => h t (List.mem_cons_of_mem block ht)) hrest
    rw [search_blank hblank, search_block (h block (by simp)) hown, htail, find_cons name block blocks]

/-- The search of an output, told from its blocks. -/
theorem function?_assemble {blocks : List Text} (h : ∀ t ∈ blocks, IsSearchable t) (name : Text) :
    ((ofText (assemble blocks)).function? name).mapError Fault.complaint = find name blocks := by
  cases blocks with
  | nil =>
    have hlines : Line.ofSource (assemble []) = [⟨1, 0, []⟩] := rfl
    rw [function?, ofText, hlines, search_blank rfl, search]
    rfl
  | cons t ts =>
    let blank : Line := ⟨0, 0, []⟩
    have hlines : (blank :: Line.ofSource (assemble (t :: ts))).map Line.text =
        (t :: ts).flatMap fun u => [] :: u.lines := by
      rw [List.map_cons, Line.map_text_ofSource, lines_assemble_cons, List.flatMap_cons,
        List.cons_append]
    have hsearch := search_blocks h hlines name
    rwa [search_blank rfl] at hsearch

/-! ### Function blocks -/

/-- The text is one function block: its first line is the header of the function `name`, its last line
closes it, and no line before does. -/
structure IsFunctionBlock (name block : Text) : Prop where
  header : ∃ first ∈ (Line.ofSource block).head?,
    isHeader first = true ∧ Header.name? first.text = some name
  closed : Delimiter.brace.Closed (Line.ofSource block)

instance (name block : Text) : Decidable (IsFunctionBlock name block) :=
  decidable_of_iff
    ((∃ first ∈ (Line.ofSource block).head?,
        isHeader first = true ∧ Header.name? first.text = some name) ∧
      Delimiter.brace.Closed (Line.ofSource block))
    ⟨fun h => ⟨h.1, h.2⟩, fun h => ⟨h.header, h.closed⟩⟩

theorem IsFunctionBlock.isSearchable {name block : Text} (h : IsFunctionBlock name block) :
    IsSearchable block :=
  Or.inr h.closed

theorem IsFunctionBlock.exists_lines {name block : Text} (h : IsFunctionBlock name block) :
    ∃ first rest, block.lines = first :: rest ∧ isHeaderText first = true ∧
      Header.name? first = some name := by
  obtain ⟨first, hfirst, hheader, hname⟩ := h.header
  cases hlines : Line.ofSource block with
  | nil => exact absurd hlines h.closed.ne_nil
  | cons line rest =>
    rw [hlines] at hfirst
    obtain rfl : line = first := by simpa using hfirst
    refine ⟨line.text, rest.map Line.text, ?_, ?_, hname⟩
    · rw [← Line.map_text_ofSource, hlines, List.map_cons]
    · rw [← isHeader_eq]
      exact hheader

theorem IsFunctionBlock.sighting_eq {name block : Text} (h : IsFunctionBlock name block) :
    sighting block = block.lines := by
  obtain ⟨first, rest, hlines, hheader, -⟩ := h.exists_lines
  rw [sighting, hlines, List.dropWhile_cons, hheader]
  rfl

theorem IsFunctionBlock.headerName_eq {name block : Text} (h : IsFunctionBlock name block) :
    headerName block = some (some name) := by
  obtain ⟨first, rest, hlines, -, hname⟩ := h.exists_lines
  rw [headerName, h.sighting_eq, hlines, List.head?_cons, Option.map_some, hname]

theorem IsFunctionBlock.isBlankText_eq {name block : Text} (h : IsFunctionBlock name block) :
    block.isBlankText = false := by
  obtain ⟨first, rest, hlines, hheader, -⟩ := h.exists_lines
  cases hb : block.isBlankText with
  | false => rfl
  | true =>
    -- A blank text has no header: its first line trims to nothing.
    have hfirst : first.isBlankText = true := by
      rw [Text.isBlankText, List.all_eq_true] at hb ⊢
      intro c hc
      have hmem : first ∈ block.lines := by rw [hlines]; simp
      exact hb c (Text.mem_of_mem_splitOn hmem hc).1
    have hkind : (⟨0, 0, first⟩ : Line).kind = .blank := by
      rw [Line.kind, (Text.trim_eq_nil_iff first).2 hfirst]
      rfl
    rw [isHeaderText, isHeader, hkind] at hheader
    cases hheader

theorem isFunctionBlock_unlines {name : Text} {header : Line} {rest : List Line}
    (hbreak : ∀ l ∈ header :: rest, '\n' ∉ l.text) (hheader : isHeader header = true)
    (hname : Header.name? header.text = some name)
    (hclosed : Delimiter.brace.Closed (header :: rest)) :
    IsFunctionBlock name (Line.unlines (header :: rest)) := by
  have hlines : (Line.unlines (header :: rest)).lines = (header :: rest).map Line.text :=
    Text.lines_unlines_map hbreak (List.cons_ne_nil header rest)
  have hsame : (header :: rest).map Line.text =
      (Line.ofSource (Line.unlines (header :: rest))).map Line.text := by
    rw [Line.map_text_ofSource, hlines]
  obtain ⟨line, lines, hline, htext, -⟩ := List.map_eq_cons_iff.1 hsame.symm
  refine ⟨⟨line, by rw [hline]; rfl, ?_, ?_⟩, hclosed.congr hsame⟩
  · rw [isHeader_eq, htext, ← isHeader_eq]
    exact hheader
  · rw [htext]
    exact hname

/-- What the search finds is a function block, wherever it was found. -/
theorem isFunctionBlock_of_search {name body : Text} {lines : List Line}
    (hbreak : ∀ l ∈ lines, '\n' ∉ l.text) (h : search name lines = .ok (some body)) :
    IsFunctionBlock name body := by
  induction lines using search.induct name with
  | case1 =>
    rw [search] at h
    cases h
  | case2 line lines hheader hb =>
    rw [search_unterminated hheader hb] at h
    cases h
  | case3 line lines hheader block rest hb hname =>
    rw [search_header hheader hb, hname] at h
    cases h
  | case4 line lines hheader block rest hb hname =>
    rw [search_header hheader hb, hname] at h
    dsimp only at h
    rw [if_pos rfl] at h
    obtain rfl : Line.unlines block = body := Option.some.inj (Except.ok.inj h)
    have hlines := Delimiter.eq_of_block? hb
    cases hblock : block with
    | nil => exact absurd hblock (Delimiter.ne_nil_of_block? hb)
    | cons first others =>
      rw [hblock, List.cons_append, List.cons.injEq] at hlines
      obtain ⟨rfl, rfl⟩ := hlines
      rw [hblock] at hb
      refine isFunctionBlock_unlines ?_ hheader hname (Delimiter.closed_of_block? hb)
      intro l hl
      exact hbreak l (List.mem_append_left rest hl)
  | case5 line lines hheader block rest hb found hname hne ih =>
    rw [search_header hheader hb, hname] at h
    dsimp only at h
    rw [if_neg hne] at h
    refine ih (fun l hl => hbreak l ?_) h
    rw [Delimiter.eq_of_block? hb]
    exact List.mem_append_right block hl
  | case6 line lines hheader ih =>
    rw [search_skip (by simpa using hheader)] at h
    exact ih (fun l hl => hbreak l (List.mem_cons_of_mem line hl)) h

end StubCompiler.PreviousOutput
