import Mathlib.Data.List.Basic
import StubCompiler.Proofs.Blocks
import StubCompiler.Proofs.Signature

/-!
# Printed programs are read back

The source form of a program is read back as that program, whatever the last output was.  Each
construct is printed as one top-level block that ends where the printed text ends, so the blocks are
found again one by one; the empty line between two of them means nothing.
-/

namespace StubCompiler

/-! ### Well-formed constructs -/

/-- The parts of the function can be told apart in its printed form. -/
structure Stub.WellFormed (stub : Stub) : Prop where
  name : Text.IsField "(\n" stub.name
  arguments : ∀ a ∈ stub.arguments, a.WellFormed
  balanced : Text.IsBalanced (List.intercalate ", " (stub.arguments.map Argument.print))
  returnType : Text.IsField "\n" stub.returnType
  comment : stub.comment = [] ∨ ∀ t ∈ stub.comment.lines, List.isPrefixOf "//" t.trim = true

/-- The construct is not pinned and can be told from its printed form. -/
inductive Construct.WellFormed : Construct → Prop where
  | function {stub : Stub} (h : stub.WellFormed) : WellFormed (.function stub)
  | typeDefinition {body : Text}
      (hkind : (Line.ofSource body).head?.map Line.kind = some .typeDefinition)
      (hclosed : Delimiter.brace.Closed (Line.ofSource body)) : WellFormed (.typeDefinition body)
  | union {name : Text} {tags : List Text} (hname : Text.IsField "=\n" name)
      (htags : ∀ t ∈ tags, Text.IsField "|\n" t ∧ t.getLast? ≠ some ';') :
      WellFormed (.union name tags)
  | exportList {names : List Text} (hnames : ∀ t ∈ names, Text.IsField ",\n" t) :
      WellFormed (.exportList names)

/-- Lines with the printed text of `c` are one block, whatever follows them, and the block stands for
`d`. -/
def Construct.IsReadAs (previous : PreviousOutput) (c d : Construct) : Prop :=
  ∀ lines : List Line, lines.map Line.text = c.sourceText.lines →
    ∃ b : SourceBlock, b.construct previous = .ok d ∧
      ∀ rest, SourceBlock.ofLines (lines ++ rest) = (SourceBlock.ofLines rest).map (b :: ·)

/-- Lines with the printed text of the construct stand for the construct. -/
def Construct.IsReadBack (previous : PreviousOutput) (c : Construct) : Prop := c.IsReadAs previous c

/-- What a printed construct is read as if nothing else is there. -/
theorem Construct.IsReadAs.readProgram_eq {c d : Construct} {previous : Text}
    (h : c.IsReadAs (.ofText previous) d) : readProgram c.sourceText previous = .ok [d] := by
  obtain ⟨b, hb, hlines⟩ := h (Line.ofSource c.sourceText) (Line.map_text_ofSource _)
  have halone := hlines []
  rw [List.append_nil, SourceBlock.ofLines_nil] at halone
  exact Reader.readProgram_eq_ok_iff.2 ⟨[b], halone, by rw [List.map_singleton, hb]; rfl⟩

/-! ### Functions -/

theorem Stub.signature_eq {stub : Stub} (h : stub.returnType ≠ []) :
    stub.signature = Header.keyword ++ (stub.name ++ '(' ::
      (List.intercalate ", " (stub.arguments.map Argument.print) ++ ')' ::
        (": " ++ (stub.returnType ++ " \x7b")))) := by
  have hkey : Header.keyword = ("function " : Text) := rfl
  have hopen : ("(" : Text) = ['('] := rfl
  have hclose : ("): " : Text) = ')' :: (": " : Text) := rfl
  unfold Stub.signature
  simp only [if_neg h, hkey, hopen, hclose, List.append_assoc, List.cons_append, List.nil_append]

/-- A printed header starts with its keyword and ends in a brace, so there is nothing to trim. -/
theorem Stub.trim_signature (stub : Stub) : stub.signature.trim = stub.signature := by
  have hkey : ("function " : Text) = 'f' :: ("unction " : Text) := rfl
  have hbrace : (" \x7b" : Text) = (" " : Text) ++ ['\x7b'] := rfl
  unfold Stub.signature
  simp only [hkey, hbrace, List.cons_append, ← List.append_assoc]
  exact Text.trim_cons_concat _ (by decide) (by decide)

theorem Stub.kind_of_signature {stub : Stub} {line : Line} (h : line.text = stub.signature) :
    line.kind = .function := by
  have hkey : ("function " : Text) = "function" ++ " " := rfl
  rw [Line.kind, h, stub.trim_signature]
  unfold Stub.signature
  simp only [hkey, List.append_assoc]
  exact LineKind.ofTrimmed_append (by decide) _

def Stub.body (stub : Stub) : List Text := if stub.comment = [] then [] else stub.comment.lines

theorem Stub.WellFormed.isPrefixOf_body {stub : Stub} (h : stub.WellFormed) {t : Text}
    (ht : t ∈ stub.body) : List.isPrefixOf "//" t.trim = true := by
  by_cases hc : stub.comment = []
  · simp [Stub.body, hc] at ht
  · rw [Stub.body, if_neg hc] at ht
    exact (h.comment.resolve_left hc) t ht

theorem Stub.WellFormed.not_mem_signature {stub : Stub} (h : stub.WellFormed) :
    '\n' ∉ stub.signature := by
  have hname : '\n' ∉ stub.name := h.name.not_mem '\n' (by decide)
  have htype : '\n' ∉ stub.returnType := h.returnType.not_mem '\n' (by decide)
  have hargs : '\n' ∉ List.intercalate ", " (stub.arguments.map Argument.print) := by
    refine Text.not_mem_intercalate (by decide) fun t ht => ?_
    obtain ⟨a, ha, rfl⟩ := List.mem_map.1 ht
    exact (h.arguments a ha).not_mem_print (by decide)
  have hkey : '\n' ∉ Header.keyword := by decide
  have hcolon : '\n' ∉ (": " : Text) := by decide
  have hbrace : '\n' ∉ (" \x7b" : Text) := by decide
  rw [Stub.signature_eq h.returnType.ne_nil]
  simp only [List.mem_append, List.mem_cons, not_or]
  exact ⟨hkey, hname, by decide, hargs, by decide, hcolon, htype, hbrace⟩

theorem Stub.WellFormed.lines_print {stub : Stub} (h : stub.WellFormed) :
    stub.print.lines = stub.signature :: (stub.body ++ [("\x7d" : Text)]) := by
  have hbreak : ("\n\x7d" : Text) = '\n' :: ("\x7d" : Text) := rfl
  have hnewline : ("\n" : Text) = ['\n'] := rfl
  have hbrace : Text.lines "\x7d" = [("\x7d" : Text)] := Text.lines_of_not_mem (by decide)
  have hsig := h.not_mem_signature
  unfold Stub.print Stub.body
  split
  · rw [hbreak, Text.lines_cons_newline hsig, hbrace, List.nil_append]
  · rw [hbreak, hnewline, List.append_assoc, List.append_assoc, List.singleton_append,
      Text.lines_cons_newline hsig, Text.lines_append_newline, hbrace]

/-- All lines of a printed body are comments, so the comment is found again. -/
theorem Stub.WellFormed.comment_eq {stub : Stub} (h : stub.WellFormed) {body : List Line}
    (hbody : body.map Line.text = stub.body) : Header.comment body = stub.comment := by
  have hall : body.filter Header.isComment = body := by
    rw [List.filter_eq_self]
    intro line hline
    exact h.isPrefixOf_body (hbody ▸ List.mem_map_of_mem hline)
  rw [Header.comment, hall, Line.unlines, hbody, Stub.body]
  split
  · rename_i hc
    rw [hc]
    rfl
  · exact Text.unlines_lines stub.comment

theorem Stub.WellFormed.stub_eq {stub : Stub} (h : stub.WellFormed) {header : Line}
    (hheader : header.text = stub.signature) {body : List Line}
    (hbody : body.map Line.text = stub.body) : Header.stub header body = .ok stub := by
  have hopen : '(' ∉ stub.name := h.name.not_mem '(' (by decide)
  have htext := hheader.trans (Stub.signature_eq h.returnType.ne_nil)
  rw [Header.stub, htext, Header.name?_append hopen h.name.trim_eq h.name.ne_nil]
  dsimp only
  rw [Header.argumentList?_append hopen h.balanced]
  dsimp only
  rw [Header.arguments_print h.arguments,
    Header.returnType_append h.returnType.trim_eq h.returnType.ne_nil, h.comment_eq hbody]

theorem Stub.WellFormed.isReadBack {stub : Stub} (h : stub.WellFormed) (previous : PreviousOutput) :
    (Construct.function stub).IsReadBack previous := by
  intro lines hlines
  change lines.map Line.text = stub.print.lines at hlines
  rw [h.lines_print] at hlines
  obtain ⟨header, rest, rfl, hheader, hrest⟩ := List.map_eq_cons_iff.1 hlines
  obtain ⟨body, tail, rfl, hbody, htail⟩ := List.map_eq_append_iff.1 hrest
  obtain ⟨last, others, rfl, hlast, hothers⟩ := List.map_eq_cons_iff.1 htail
  obtain rfl : others = [] := List.map_eq_nil_iff.1 hothers
  have hkind : header.kind = .function := Stub.kind_of_signature hheader
  have hclosed : Delimiter.brace.Closed (header :: (body ++ [last])) := by
    refine ⟨header :: body, last, rfl, ?_, ?_⟩
    · rw [Delimiter.closes, beq_iff_eq, Line.kind_eq_close_iff, hlast]
      decide
    · intro line hline
      rw [Delimiter.closes, beq_eq_false_iff_ne]
      rcases List.mem_cons.1 hline with rfl | hline
      · rw [hkind]
        decide
      · -- A comment starts with slashes, so it is no closing line.
        intro hc
        have hcomment := h.isPrefixOf_body (hbody ▸ List.mem_map_of_mem hline)
        rw [Line.kind_eq_close_iff.1 hc] at hcomment
        exact absurd hcomment (by decide)
  refine ⟨⟨header, header :: (body ++ [last])⟩, ?_, ?_⟩
  · have hstub := h.stub_eq hheader hbody
    simp only [SourceBlock.construct, hkind, Reader.function, List.tail_cons, List.dropLast_concat,
      hstub, Bool.false_eq_true, if_false]
  · intro rest
    have hextent : header.kind.extent = .block .brace .function := by rw [hkind]; rfl
    exact SourceBlock.ofLines_append hextent hclosed rest

/-! ### Type definitions -/

theorem Construct.isReadBack_typeDefinition {body : Text}
    (hkind : (Line.ofSource body).head?.map Line.kind = some .typeDefinition)
    (hclosed : Delimiter.brace.Closed (Line.ofSource body)) (previous : PreviousOutput) :
    (Construct.typeDefinition body).IsReadBack previous := by
  intro lines hlines
  change lines.map Line.text = body.lines at hlines
  have hsame : (Line.ofSource body).map Line.text = lines.map Line.text := by
    rw [hlines, Line.map_text_ofSource]
  have hclosed' : Delimiter.brace.Closed lines := hclosed.congr hsame
  cases lines with
  | nil => exact absurd rfl hclosed'.ne_nil
  | cons header rest =>
    obtain ⟨first, others, hfirst, htext, -⟩ := List.map_eq_cons_iff.1 hsame
    have hheader : header.kind = .typeDefinition := by
      rw [hfirst, List.head?_cons, Option.map_some, Option.some.injEq] at hkind
      rw [← Line.kind_congr htext, hkind]
    refine ⟨⟨header, header :: rest⟩, ?_, ?_⟩
    · have hbody : Line.unlines (header :: rest) = body := by
        rw [Line.unlines, hlines, Text.unlines_lines]
      simp only [SourceBlock.construct, hheader, hbody]
    · have hextent : header.kind.extent = .block .brace .typeDefinition := by rw [hheader]; rfl
      exact SourceBlock.ofLines_append hextent hclosed'

/-! ### Unions -/

/-- The blanks around a printed tag and the semicolon behind the last one mean nothing. -/
theorem Reader.tag?_pad {t : Text} (ht : t.trim = t) (hne : t ≠ []) {w z : Text}
    (hw : w.isBlankText = true) (hz : z.isBlankText = true ∨ z = ";") :
    tag? (w ++ t ++ z) = tag? t := by
  rcases hz with hz | rfl
  · rw [tag?, tag?, Text.trim_pad hw ht hz, ht]
  · have htrim : Text.trim (t ++ ";") = t ++ ";" := by
      apply Text.trim_eq_self
      · intro c hc
        cases t with
        | nil => exact absurd rfl hne
        | cons d s =>
          obtain rfl : d = c := by simpa using hc
          exact Text.isBlank_head_of_trim_eq ht
      · intro c hc
        obtain rfl : ';' = c := by simpa using hc
        decide
    have hsemi : Text.dropEnd (· == ';') (t ++ ";") = Text.dropEnd (· == ';') t :=
      Text.dropEnd_append (List.forall_mem_singleton.2 rfl)
    rw [tag?, tag?, List.append_assoc, Text.trim_append_left hw, htrim, hsemi, ht]

/-- A trimmed tag is read back if and only if it does not end in a semicolon. -/
theorem Reader.tag?_eq_some_self_iff {t : Text} (ht : t.trim = t) (hne : t ≠ []) :
    tag? t = some t ↔ t.getLast? ≠ some ';' := by
  constructor
  · intro h hlast
    obtain ⟨s, rfl⟩ := List.getLast?_eq_some_iff.1 hlast
    have hdrop : Text.dropEnd (· == ';') (s ++ [';']) = Text.dropEnd (· == ';') s :=
      Text.dropEnd_append (List.forall_mem_singleton.2 rfl)
    rw [tag?, ht, hdrop] at h
    split at h
    · cases h
    · -- The semicolon is gone, so what is left is too short.
      have hlength := Text.length_trim_le (Text.dropEnd (· == ';') s)
      have hshort := Text.length_dropEnd_le (· == ';') s
      rw [Option.some.inj h, List.length_append, List.length_singleton] at hlength
      omega
  · intro hlast
    have hdrop : Text.dropEnd (· == ';') t = t := by
      apply Text.dropEnd_eq_self
      rintro c hc
      rw [beq_eq_false_iff_ne]
      rintro rfl
      exact hlast hc
    rw [tag?, ht, hdrop, ht, if_neg hne]

theorem Reader.filterMap_tag?_eq_self_iff {tags : List Text} (h : ∀ t ∈ tags, Text.IsField "|\n" t) :
    tags.filterMap tag? = tags ↔ ∀ t ∈ tags, t.getLast? ≠ some ';' := by
  have hsome := List.filterMap_eq_map_iff_forall_eq_some (f := tag?) (g := id) (l := tags)
  rw [List.map_id] at hsome
  rw [hsome]
  exact forall₂_congr fun t ht => tag?_eq_some_self_iff (h t ht).trim_eq (h t ht).ne_nil

theorem Reader.tags_print {tags : List Text} (h : ∀ t ∈ tags, Text.IsField "|\n" t) :
    Reader.tags (" " ++ List.intercalate " | " tags ++ ";") = tags.filterMap tag? := by
  cases tags with
  | nil => decide
  | cons t ts =>
    have hprint : ∀ u ∈ t :: ts, '|' ∉ id u := fun u hu => (h u hu).not_mem '|' (by decide)
    have hjoin := Text.filterMap_splitOn_join " " " " " " ";" (by decide) (by decide) (by decide)
      (by decide) (by decide) t ts hprint
      fun u hu w z hw hz => tag?_pad (h u hu).trim_eq (h u hu).ne_nil hw hz
    rw [List.map_id] at hjoin
    exact hjoin

theorem Construct.sourceText_union (name : Text) (tags : List Text) :
    (Construct.union name tags).sourceText =
      Reader.unionKeyword ++ (" " ++ name ++ " " ++ '=' :: (" " ++ List.intercalate " | " tags ++ ";")) := by
  have hkey : Reader.unionKeyword = ("union " : Text) ++ "type" := rfl
  have htype : ("type " : Text) = "type" ++ " " := rfl
  have heq : (" = " : Text) = " " ++ '=' :: " " := rfl
  unfold Construct.sourceText printUnion
  simp only [hkey, htype, heq, List.append_assoc, List.cons_append]

theorem Construct.trim_sourceText_union (name : Text) (tags : List Text) :
    (Construct.union name tags).sourceText.trim = (Construct.union name tags).sourceText := by
  have hkey : ("union " : Text) = 'u' :: ("nion " : Text) := rfl
  have hsemi : (";" : Text) = [';'] := rfl
  unfold Construct.sourceText printUnion
  simp only [hkey, hsemi, List.cons_append, ← List.append_assoc]
  exact Text.trim_cons_concat _ (by decide) (by decide)

theorem Construct.getLast?_sourceText_union (name : Text) (tags : List Text) :
    (Construct.union name tags).sourceText.getLast? = some ';' := by
  have hsemi : (";" : Text) = [';'] := rfl
  unfold Construct.sourceText printUnion
  simp only [hsemi, ← List.append_assoc, List.getLast?_concat]

theorem Construct.not_mem_sourceText_union {name : Text} {tags : List Text}
    (hname : Text.IsField "=\n" name) (htags : ∀ t ∈ tags, Text.IsField "|\n" t) :
    '\n' ∉ (Construct.union name tags).sourceText := by
  have hn : '\n' ∉ name := hname.not_mem '\n' (by decide)
  have hjoin : '\n' ∉ List.intercalate " | " tags :=
    Text.not_mem_intercalate (by decide) fun t ht => (htags t ht).not_mem '\n' (by decide)
  rw [Construct.sourceText_union]
  simp only [List.mem_append, List.mem_cons, not_or]
  exact ⟨by decide, ⟨⟨by decide, hn⟩, by decide⟩, by decide, ⟨by decide, hjoin⟩, by decide⟩

/-- A printed union is read as a union of the same name, and each tag as it is by itself. -/
theorem Construct.isReadAs_union {name : Text} {tags : List Text} (hname : Text.IsField "=\n" name)
    (htags : ∀ t ∈ tags, Text.IsField "|\n" t) (previous : PreviousOutput) :
    (Construct.union name tags).IsReadAs previous (.union name (tags.filterMap Reader.tag?)) := by
  intro lines hlines
  rw [Text.lines_of_not_mem (Construct.not_mem_sourceText_union hname htags)] at hlines
  obtain ⟨line, others, rfl, htext, hothers⟩ := List.map_eq_cons_iff.1 hlines
  obtain rfl : others = [] := List.map_eq_nil_iff.1 hothers
  have htrim : line.text.trim = (Construct.union name tags).sourceText := by
    rw [htext, Construct.trim_sourceText_union]
  have hkind : line.kind = .unionType := by
    rw [Line.kind, htrim, Construct.sourceText_union]
    exact LineKind.ofTrimmed_append (by decide) _
  have hcloses : Delimiter.terminator.closes line = true := by
    rw [Delimiter.closes, Line.isTerminator, htrim, Construct.getLast?_sourceText_union]
    decide
  refine ⟨⟨line, [line]⟩, ?_, ?_⟩
  · have hmark : '=' ∉ (" " ++ name ++ " " : Text) := by
      simp only [List.mem_append, not_or]
      exact ⟨⟨by decide, hname.not_mem '=' (by decide)⟩, by decide⟩
    have hread : Text.trim (" " ++ name ++ " ") = name :=
      Text.trim_pad (by decide) hname.trim_eq (by decide)
    have hunion : Reader.union line [line] = .ok (.union name (tags.filterMap Reader.tag?)) := by
      simp only [Reader.union, List.map_cons, List.map_nil, List.intercalate_singleton, htrim,
        Construct.sourceText_union, Text.isPrefixOf?_append, Option.getD_some,
        Text.cutAt?_append_cons hmark, hread, if_neg hname.ne_nil, Reader.tags_print htags]
    simp only [SourceBlock.construct, hkind, hunion]
  · have hextent : line.kind.extent = .block .terminator .unionType := by rw [hkind]; rfl
    exact SourceBlock.ofLines_append hextent (Delimiter.closed_singleton hcloses)

theorem Construct.isReadBack_union {name : Text} {tags : List Text} (hname : Text.IsField "=\n" name)
    (htags : ∀ t ∈ tags, Text.IsField "|\n" t ∧ t.getLast? ≠ some ';') (previous : PreviousOutput) :
    (Construct.union name tags).IsReadBack previous := by
  have hfields : ∀ t ∈ tags, Text.IsField "|\n" t := fun t ht => (htags t ht).1
  have hread := isReadAs_union hname hfields previous
  rw [(Reader.filterMap_tag?_eq_self_iff hfields).2 fun t ht => (htags t ht).2] at hread
  exact hread

/-! ### Export lists -/

/-- There is nothing to trim off a line that ends in an exported name. -/
theorem Text.exists_concat_intercalate (sep t : Text) (ts : List Text)
    (h : ∀ u ∈ t :: ts, u.trim = u ∧ u ≠ []) :
    ∃ s c, List.intercalate sep (t :: ts) = s ++ [c] ∧ isBlank c = false := by
  induction ts generalizing t with
  | nil =>
    obtain ⟨htrim, hne⟩ := h t (by simp)
    rcases List.eq_nil_or_concat t with rfl | ⟨s, c, rfl⟩
    · exact absurd rfl hne
    · rw [List.concat_eq_append] at htrim
      exact ⟨s, c, by simp, isBlank_last_of_trim_eq htrim⟩
  | cons u us ih =>
    obtain ⟨s, c, hs, hc⟩ := ih u fun v hv => h v (List.mem_cons_of_mem _ hv)
    exact ⟨t ++ sep ++ s, c, by simp [List.intercalate_cons_cons, hs], hc⟩

theorem Reader.names_print {names : List Text} (h : ∀ t ∈ names, Text.IsField ",\n" t) :
    Reader.names (" " ++ List.intercalate ", " names) = names := by
  cases names with
  | nil => decide
  | cons t ts =>
    have hprint : ∀ u ∈ t :: ts, ',' ∉ id u := fun u hu => (h u hu).not_mem ',' (by decide)
    let parse : Text → Option Text := fun piece =>
      if Text.trim piece = [] then none else some (Text.trim piece)
    have hread : ∀ u ∈ t :: ts, ∀ w z, Text.isBlankText w = true → Text.isBlankText z = true ∨ z = [] →
        parse (w ++ id u ++ z) = some u := by
      intro u hu w z hw hz
      have hz' : Text.isBlankText z = true := by
        rcases hz with hz | rfl
        · exact hz
        · rfl
      have htrim : Text.trim (w ++ id u ++ z) = u := Text.trim_pad hw (h u hu).trim_eq hz'
      show (if Text.trim (w ++ id u ++ z) = [] then none else some (Text.trim (w ++ id u ++ z))) = _
      rw [htrim, if_neg (h u hu).ne_nil]
    have hjoin := Text.filterMap_splitOn_join " " [] " " [] (by decide) (by decide) rfl (by decide)
      (by decide) t ts hprint hread
    rw [List.map_id, List.append_nil, List.filterMap_some] at hjoin
    exact hjoin

/-- Trimming a printed export list takes away at most the space before its first name. -/
theorem Construct.trim_sourceText_exportList {names : List Text}
    (h : ∀ t ∈ names, Text.IsField ",\n" t) :
    ∃ list, (Construct.exportList names).sourceText.trim = Reader.exportKeyword ++ list ∧
      Reader.names list = names := by
  cases names with
  | nil => exact ⟨[], by decide, rfl⟩
  | cons t ts =>
    obtain ⟨s, c, hs, hc⟩ := Text.exists_concat_intercalate ", " t ts
      fun u hu => ⟨(h u hu).trim_eq, (h u hu).ne_nil⟩
    refine ⟨" " ++ List.intercalate ", " (t :: ts), ?_, Reader.names_print h⟩
    have htext : (Construct.exportList (t :: ts)).sourceText = 'e' :: ("xport " ++ s ++ [c]) := by
      have hkey : ("export " : Text) = 'e' :: ("xport " : Text) := rfl
      unfold Construct.sourceText
      simp only [hkey, hs, List.cons_append, List.append_assoc]
    have hkeep : Reader.exportKeyword ++ (" " ++ List.intercalate ", " (t :: ts)) =
        'e' :: ("xport " ++ s ++ [c]) := by
      rw [hs]
      rfl
    rw [htext, hkeep]
    exact Text.trim_cons_concat _ (by decide) hc

theorem Construct.isReadBack_exportList {names : List Text} (h : ∀ t ∈ names, Text.IsField ",\n" t)
    (previous : PreviousOutput) : (Construct.exportList names).IsReadBack previous := by
  intro lines hlines
  have hbreak : '\n' ∉ (Construct.exportList names).sourceText := by
    have hjoin : '\n' ∉ List.intercalate ", " names :=
      Text.not_mem_intercalate (by decide) fun t ht => (h t ht).not_mem '\n' (by decide)
    unfold Construct.sourceText
    rw [List.mem_append, not_or]
    exact ⟨by decide, hjoin⟩
  rw [Text.lines_of_not_mem hbreak] at hlines
  obtain ⟨line, others, rfl, htext, hothers⟩ := List.map_eq_cons_iff.1 hlines
  obtain rfl : others = [] := List.map_eq_nil_iff.1 hothers
  obtain ⟨list, htrim, hnames⟩ := Construct.trim_sourceText_exportList h
  rw [← htext] at htrim
  have hkind : line.kind = .exportList := by
    rw [Line.kind, htrim]
    exact LineKind.ofTrimmed_append (by decide) list
  refine ⟨⟨line, [line]⟩, ?_, ?_⟩
  · have hread : Reader.exportList line = .exportList names := by
      simp only [Reader.exportList, htrim, Text.isPrefixOf?_append, Option.getD_some, hnames]
    simp only [SourceBlock.construct, hkind, hread]
  · intro rest
    have hextent : line.kind.extent = .line := by rw [hkind]; rfl
    exact SourceBlock.ofLines_line hextent rest

/-! ### Programs -/

theorem Construct.WellFormed.isReadBack {c : Construct} (h : c.WellFormed)
    (previous : PreviousOutput) : c.IsReadBack previous := by
  cases h with
  | function h => exact h.isReadBack previous
  | typeDefinition hkind hclosed => exact isReadBack_typeDefinition hkind hclosed previous
  | union hname htags => exact isReadBack_union hname htags previous
  | exportList hnames => exact isReadBack_exportList hnames previous

/-- Printed constructs, an empty line before each, are found again one by one. -/
theorem SourceBlock.ofLines_print {previous : PreviousOutput} {program : Program}
    (h : ∀ c ∈ program, c.IsReadBack previous) {lines : List Line}
    (hlines : lines.map Line.text = program.flatMap fun c => [] :: c.sourceText.lines) :
    ∃ blocks, ofLines lines = .ok blocks ∧
      blocks.map (SourceBlock.construct previous) = program.map .ok := by
  induction program generalizing lines with
  | nil =>
    obtain rfl : lines = [] := List.map_eq_nil_iff.1 hlines
    exact ⟨[], ofLines_nil, rfl⟩
  | cons c program ih =>
    -- The lines are an empty one, those of `c`, and those of the rest of the program.
    rw [List.flatMap_cons, List.cons_append] at hlines
    obtain ⟨blank, printed, rfl, hblank, hprinted⟩ := List.map_eq_cons_iff.1 hlines
    obtain ⟨own, rest, rfl, hown, hrest⟩ := List.map_eq_append_iff.1 hprinted
    obtain ⟨b, hb, hskip⟩ := h c (by simp) own hown
    obtain ⟨blocks, hblocks, hall⟩ := ih (fun d hd => h d (List.mem_cons_of_mem c hd)) hrest
    refine ⟨b :: blocks, ?_, ?_⟩
    · rw [ofLines_blank hblank, hskip, hblocks]
      rfl
    · rw [List.map_cons, List.map_cons, hb, hall]

/-- A program without pinned functions is read back from its printed form. -/
theorem readProgram_sourceText {program : Program} (h : ∀ c ∈ program, c.WellFormed)
    (previous : Text) : readProgram program.sourceText previous = .ok program := by
  rw [Reader.readProgram_eq_ok_iff]
  cases program with
  | nil =>
    have hlines : Line.ofSource (Program.sourceText []) = [⟨1, 0, []⟩] := rfl
    rw [hlines, SourceBlock.ofLines_blank rfl, SourceBlock.ofLines_nil]
    exact ⟨[], rfl, rfl⟩
  | cons c program =>
    -- With an empty line in front, the first construct is printed like the others.
    let blank : Line := ⟨0, 0, []⟩
    have hlines : (blank :: Line.ofSource (Program.sourceText (c :: program))).map Line.text =
        (c :: program).flatMap fun d => [] :: d.sourceText.lines := by
      rw [List.map_cons, Line.map_text_ofSource, Program.sourceText, List.map_cons,
        lines_assemble_cons, List.flatMap_map, List.flatMap_cons, List.cons_append]
    obtain ⟨blocks, hblocks, hall⟩ := SourceBlock.ofLines_print
      (fun d hd => (h d hd).isReadBack (.ofText previous)) hlines
    rw [SourceBlock.ofLines_blank rfl] at hblocks
    exact ⟨blocks, hblocks, hall⟩

theorem readProgram_sourceText_of_each_kind :
    let twice : Stub :=
      ⟨"twice", [⟨"f", "(x: number) => number"⟩, ⟨"x", []⟩], "number", "  // call f\n\t// and again"⟩
    let program : Program :=
      [.typeDefinition "type Tool = \x7b\n  name: string;\n\x7d", .union "Shade" ["Red", "Green"],
        .function twice, .exportList ["twice", "Shade"]]
    (∀ c ∈ program, c.WellFormed) ∧
      readProgram program.sourceText "function twice(" = .ok program := by
  intro twice program
  have htwice : twice.WellFormed :=
    { name := by decide
      arguments := by decide
      balanced := by decide
      returnType := by decide
      comment := by decide }
  have hprogram : ∀ c ∈ program, c.WellFormed := by
    simp only [program, List.forall_mem_cons]
    refine ⟨.typeDefinition (by decide) (by decide), .union (by decide) (by decide), .function htwice,
      .exportList (by decide), by simp⟩
  exact ⟨hprogram, readProgram_sourceText hprogram _⟩

end StubCompiler
