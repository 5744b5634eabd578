import StubCompiler.Program.Printer
import StubCompiler.Program.Reader
import StubCompiler.Proofs.Text

/-!
# The top-level blocks of a source

A source is a sequence of top-level blocks with lines between them that mean nothing.  Where the blocks
are depends on the lines alone, not on the previous output; a program is read by turning every block
into a construct (`Reader.readProgram_eq_ok_iff`).
-/

namespace StubCompiler

/-! ### The kind of a line -/

/-- No keyword starts another one, so the first to be found is the one that is there. -/
theorem LineKind.ofTrimmed_append {word : Text} {kind : LineKind} (h : (word, kind) ∈ keywords)
    (rest : Text) : ofTrimmed (word ++ rest) = kind := by
  have hsep : ∀ k ∈ keywords, ∀ l ∈ keywords, k.1 <+: l.1 → k = l := by decide
  have hword : ∀ k ∈ keywords, k.1.head? ≠ none ∧ k.1.head? ≠ some '\x7d' := by decide
  have hnil : word ++ rest ≠ [] := by
    rintro heq
    obtain ⟨rfl, -⟩ := List.append_eq_nil_iff.1 heq
    exact (hword _ h).1 rfl
  have hclose : word ++ rest ≠ "\x7d" := by
    intro heq
    cases word with
    | nil => exact (hword _ h).1 rfl
    | cons c cs =>
      obtain rfl : c = '\x7d' := (List.cons.inj heq).1
      exact (hword _ h).2 rfl
  rw [ofTrimmed, if_neg hnil, if_neg hclose]
  split
  · rename_i found its hfind
    have hmem := List.mem_of_find?_eq_some hfind
    have hstart : found.isPrefixOf (word ++ rest) = true := by
      have hsome := List.find?_some hfind
      exact hsome
    have hpre := List.isPrefixOf_iff_prefix.1 hstart
    -- Both words start the same text, so one of them starts the other.
    have heq : (found, its) = (word, kind) := by
      rcases List.prefix_or_prefix_of_prefix hpre (List.prefix_append word rest) with hp | hp
      · exact hsep _ hmem _ h hp
      · exact (hsep _ h _ hmem hp).symm
    exact congrArg Prod.snd heq
  · rename_i hfind
    have hfree := List.find?_eq_none.1 hfind _ h
    exact absurd (List.isPrefixOf_iff_prefix.2 (List.prefix_append word rest)) hfree

/-- Only a lone brace is a closing line; no keyword announces one. -/
theorem Line.kind_eq_close_iff {line : Line} : line.kind = .close ↔ line.text.trim = "\x7d" := by
  rw [Line.kind, LineKind.ofTrimmed]
  constructor
  · intro h
    split at h
    · exact LineKind.noConfusion h
    · split at h
      · assumption
      · split at h
        · rename_i heq
          have hmem := List.mem_of_find?_eq_some heq
          subst h
          simp [LineKind.keywords] at hmem
        · exact LineKind.noConfusion h
  · intro h
    rw [h]
    decide

/-! ### What depends on the text of a line only -/

theorem Line.kind_congr {l m : Line} (h : l.text = m.text) : l.kind = m.kind := by
  rw [Line.kind, h, Line.kind]

theorem Line.isUnindented_congr {l m : Line} (h : l.text = m.text) :
    l.isUnindented = m.isUnindented := by
  rw [Line.isUnindented, h, Line.isUnindented]

theorem Delimiter.closes_congr (d : Delimiter) {l m : Line} (h : l.text = m.text) :
    d.closes l = d.closes m := by
  cases d with
  | brace => rw [closes, Line.kind_congr h, closes]
  | terminator => rw [closes, Line.isTerminator, h, closes, Line.isTerminator]

/-! ### The lines of an assembled text -/

theorem lines_assemble_cons (t : Text) (ts : List Text) :
    (assemble (t :: ts)).lines = t.lines ++ ts.flatMap fun u => [] :: u.lines := by
  induction ts generalizing t with
  | nil => simp [assemble]
  | cons u us ih =>
    have hjoin : assemble (t :: u :: us) = t ++ '\n' :: ([] ++ '\n' :: assemble (u :: us)) := by
      simp [assemble, List.intercalate_cons_cons]
    rw [hjoin, Text.lines_append_newline, Text.lines_append_newline, ih]
    rfl

/-! ### Closed blocks -/

namespace Delimiter

/-- The last of the lines ends the block, and none before it does. -/
def Closed (d : Delimiter) (lines : List Line) : Prop :=
  ∃ body last, lines = body ++ [last] ∧ d.closes last = true ∧ ∀ line ∈ body, d.closes line = false

theorem Closed.ne_nil {d : Delimiter} {lines : List Line} (h : d.Closed lines) : lines ≠ [] := by
  obtain ⟨body, last, rfl, -, -⟩ := h
  simp

theorem closed_singleton {d : Delimiter} {line : Line} (h : d.closes line = true) :
    d.Closed [line] :=
  ⟨[], line, rfl, h, by simp⟩

theorem closed_cons_iff {d : Delimiter} {line : Line} {lines : List Line} (hne : lines ≠ []) :
    d.Closed (line :: lines) ↔ d.closes line = false ∧ d.Closed lines := by
  constructor
  · rintro ⟨body, last, hlines, hlast, hbody⟩
    cases body with
    | nil =>
      simp only [List.nil_append, List.cons.injEq] at hlines
      exact absurd hlines.2 hne
    | cons first body =>
      simp only [List.cons_append, List.cons.injEq] at hlines
      obtain ⟨rfl, rfl⟩ := hlines
      exact ⟨hbody line (by simp), body, last, rfl, hlast, fun l hl => hbody l (by simp [hl])⟩
  · rintro ⟨hline, body, last, rfl, hlast, hbody⟩
    refine ⟨line :: body, last, rfl, hlast, ?_⟩
    intro l hl
    rcases List.mem_cons.1 hl with rfl | hl
    · exact hline
    · exact hbody l hl

theorem block?_append {d : Delimiter} {block : List Line} (h : d.Closed block) (rest : List Line) :
    d.block? (block ++ rest) = some (block, rest) := by
  obtain ⟨body, last, rfl, hlast, hbody⟩ := h
  induction body with
  | nil => simp [block?, hlast]
  | cons line body ih =>
    have hline : d.closes line = false := hbody line (by simp)
    have hrest := ih fun l hl => hbody l (by simp [hl])
    rw [List.cons_append, List.cons_append, block?, hline, hrest]
    rfl

theorem closed_of_block? {d : Delimiter} {lines block rest : List Line}
    (h : d.block? lines = some (block, rest)) : d.Closed block := by
  induction lines generalizing block with
  | nil => simp [block?] at h
  | cons line lines ih =>
    cases hc : d.closes line with
    | true =>
      simp only [block?, hc, if_true, Option.some.injEq, Prod.mk.injEq] at h
      rw [← h.1]
      exact closed_singleton hc
    | false =>
      simp only [block?, hc, Bool.false_eq_true, if_false, Option.map_eq_some_iff, Prod.exists,
        Prod.mk.injEq] at h
      obtain ⟨b, r, hbr, rfl, rfl⟩ := h
      have hb := ih hbr
      exact (closed_cons_iff hb.ne_nil).2 ⟨hc, hb⟩

theorem closed_iff_block? {d : Delimiter} {lines : List Line} :
    d.Closed lines ↔ d.block? lines = some (lines, []) := by
  constructor
  · intro h
    simpa using block?_append h []
  · exact closed_of_block?

instance (d : Delimiter) (lines : List Line) : Decidable (d.Closed lines) :=
  decidable_of_iff _ closed_iff_block?.symm

/-- Which lines are in the block does not matter, only which of them close it. -/
theorem Closed.of_map_closes {d : Delimiter} {xs ys : List Line} (h : d.Closed xs)
    (hxy : xs.map d.closes = ys.map d.closes) : d.Closed ys := by
  obtain ⟨body, last, rfl, hlast, hbody⟩ := h
  rw [List.map_append] at hxy
  obtain ⟨body', ends, rfl, hbodies, hends⟩ := List.map_eq_append_iff.1 hxy.symm
  obtain ⟨last', rest, rfl, hlasts, hrest⟩ := List.map_eq_cons_iff.1 hends
  obtain rfl : rest = [] := List.map_eq_nil_iff.1 hrest
  refine ⟨body', last', rfl, hlasts.trans hlast, ?_⟩
  intro m hm
  have hmem : d.closes m ∈ body.map d.closes := by
    rw [← hbodies]
    exact List.mem_map_of_mem hm
  obtain ⟨l, hl, hlm⟩ := List.mem_map.1 hmem
  rw [← hlm, hbody l hl]

theorem Closed.congr {d : Delimiter} {xs ys : List Line} (h : d.Closed xs)
    (hxy : xs.map Line.text = ys.map Line.text) : d.Closed ys := by
  have htext : d.closes = (fun t => d.closes ⟨0, 0, t⟩) ∘ Line.text :=
    funext fun l => closes_congr d rfl
  refine h.of_map_closes ?_
  rw [htext, ← List.map_map, hxy, List.map_map]

end Delimiter

/-! ### Top-level blocks -/

/-- How far the line that opens a construct reaches. -/
inductive Extent where
  /-- The line opens nothing. -/
  | none
  /-- The line is a construct by itself. -/
  | line
  /-- The construct ends with the first line that `d` closes. -/
  | block (d : Delimiter) (kind : BlockKind)

def LineKind.extent : LineKind → Extent
  | .pinnedFunction | .function => .block .brace .function
  | .unionType => .block .terminator .unionType
  | .typeDefinition => .block .brace .typeDefinition
  | .exportList => .line
  | .close | .blank | .other => .none

/-- A top-level block: the line that opens it, and all its lines, that one included. -/
structure SourceBlock where
  header : Line
  lines : List Line
deriving DecidableEq, Repr

namespace SourceBlock

/-- The top-level blocks from the first of `lines` on, or the first one without an end. -/
def ofLines : List Line → Except Fault (List SourceBlock)
  | [] => .ok []
  | line :: lines =>
    match line.kind.extent with
    | .none => ofLines lines
    | .line => (ofLines lines).map (⟨line, [line]⟩ :: ·)
    | .block d kind =>
      match _h : d.block? (line :: lines) with
      | none => .error ⟨.unterminated kind, line⟩
      | some (block, rest) => (ofLines rest).map (⟨line, block⟩ :: ·)
termination_by lines => lines.length
decreasing_by
  · simp
  · simp
  · exact Delimiter.length_lt_of_block? _h

def construct (previous : PreviousOutput) (b : SourceBlock) : Except SyntaxError Construct :=
  match b.header.kind with
  | .pinnedFunction => Reader.function previous true b.header b.lines
  | .function => Reader.function previous false b.header b.lines
  | .unionType => Reader.union b.header b.lines
  | .typeDefinition => .ok (.typeDefinition (Line.unlines b.lines))
  | _ => .ok (Reader.exportList b.header)

theorem ofLines_nil : ofLines [] = .ok [] := by rw [ofLines]

theorem ofLines_skip {line : Line} (h : line.kind.extent = .none) (lines : List Line) :
    ofLines (line :: lines) = ofLines lines := by
  rw [ofLines, h]

theorem ofLines_blank {line : Line} (h : line.text = []) (lines : List Line) :
    ofLines (line :: lines) = ofLines lines := by
  have hkind : line.kind = .blank := by
    rw [Line.kind, h]
    decide
  exact ofLines_skip (by rw [hkind]; rfl) lines

theorem ofLines_line {line : Line} (h : line.kind.extent = .line) (lines : List Line) :
    ofLines (line :: lines) = (ofLines lines).map (⟨line, [line]⟩ :: ·) := by
  rw [ofLines, h]

theorem ofLines_block {line : Line} {d : Delimiter} {kind : BlockKind}
    (h : line.kind.extent = .block d kind) {lines block rest : List Line}
    (hb : d.block? (line :: lines) = some (block, rest)) :
    ofLines (line :: lines) = (ofLines rest).map (⟨line, block⟩ :: ·) := by
  rw [ofLines, h]
  dsimp only
  split
  · rename_i heq
    rw [hb] at heq
    cases heq
  · rename_i b r heq
    rw [hb] at heq
    obtain ⟨rfl, rfl⟩ : block = b ∧ rest = r := by simpa using heq
    rfl

theorem ofLines_append {line : Line} {d : Delimiter} {kind : BlockKind}
    (h : line.kind.extent = .block d kind) {lines : List Line} (hc : d.Closed (line :: lines))
    (rest : List Line) :
    ofLines (line :: lines ++ rest) = (ofLines rest).map (⟨line, line :: lines⟩ :: ·) :=
  ofLines_block h (Delimiter.block?_append hc rest)

theorem ofLines_unterminated {line : Line} {d : Delimiter} {kind : BlockKind}
    (h : line.kind.extent = .block d kind) {lines : List Line} (hb : d.block? (line :: lines) = none) :
    ofLines (line :: lines) = .error ⟨.unterminated kind, line⟩ := by
  rw [ofLines, h]
  dsimp only
  split
  · rfl
  · rename_i heq
    rw [hb] at heq
    cases heq

end SourceBlock

/-! ### Reading block by block -/

namespace Reader

/-- The constructs of the results, or else all errors among them; `found` and `errors` come first. -/
def collect (found : Program) (errors : SyntaxErrors) (results : List (Except SyntaxError Construct)) :
    Except SyntaxErrors Program :=
  let constructs := results.filterMap fun
    | .ok construct => some construct
    | .error _ => none
  let faults := results.filterMap fun
    | .ok _ => none
    | .error error => some error
  if errors ++ faults = [] then .ok (found ++ constructs) else .error (errors ++ faults)

theorem collect_ok (found : Program) (errors : SyntaxErrors) (construct : Construct)
    (results : List (Except SyntaxError Construct)) :
    collect found errors (.ok construct :: results) = collect (found ++ [construct]) errors results := by
  simp [collect]

theorem collect_error (found : Program) (errors : SyntaxErrors) (error : SyntaxError)
    (results : List (Except SyntaxError Construct)) :
    collect found errors (.error error :: results) = collect found (errors ++ [error]) results := by
  simp [collect]

theorem step_eq (previous : PreviousOutput) (line : Line) (lines : List Line) :
    step previous line lines = match line.kind.extent with
      | .none => .skip
      | .line => .entry (SourceBlock.construct previous ⟨line, [line]⟩) lines
      | .block d kind => match d.block? (line :: lines) with
        | none => .unterminated kind
        | some (block, rest) => .entry (SourceBlock.construct previous ⟨line, block⟩) rest := by
  unfold step takeBlock SourceBlock.construct
  dsimp only
  cases line.kind <;> rfl

theorem read_ok {previous : PreviousOutput} {line : Line} {lines rest : List Line}
    {construct : Construct} (h : step previous line lines = .entry (.ok construct) rest)
    (found : Program) (errors : SyntaxErrors) :
    read previous found errors (line :: lines) = read previous (found ++ [construct]) errors rest := by
  rw [read]
  split
  all_goals rename_i heq; rw [h] at heq; cases heq
  rfl

theorem read_error {previous : PreviousOutput} {line : Line} {lines rest : List Line}
    {error : SyntaxError} (h : step previous line lines = .entry (.error error) rest)
    (found : Program) (errors : SyntaxErrors) :
    read previous found errors (line :: lines) = read previous found (errors ++ [error]) rest := by
  rw [read]
  split
  all_goals rename_i heq; rw [h] at heq; cases heq
  rfl

/-- What comes of the blocks of a source: a block without an end is the only error. -/
def outcome (previous : PreviousOutput) (found : Program) (errors : SyntaxErrors) :
    Except Fault (List SourceBlock) → Except SyntaxErrors Program
  | .error fault => .error [.inSource fault]
  | .ok blocks => collect found errors (blocks.map (SourceBlock.construct previous))

theorem read_entry {previous : PreviousOutput} {line : Line} {lines rest : List Line}
    {b : SourceBlock} (h : step previous line lines = .entry (b.construct previous) rest)
    (hrest : ∀ found errors,
      read previous found errors rest = outcome previous found errors (SourceBlock.ofLines rest))
    (found : Program) (errors : SyntaxErrors) :
    read previous found errors (line :: lines) =
      outcome previous found errors ((SourceBlock.ofLines rest).map (b :: ·)) := by
  cases hb : b.construct previous with
  | ok construct =>
    rw [hb] at h
    rw [read_ok h, hrest]
    cases SourceBlock.ofLines rest with
    | error fault => rfl
    | ok blocks => simp only [outcome, Except.map, List.map_cons, hb, collect_ok]
  | error error =>
    rw [hb] at h
    rw [read_error h, hrest]
    cases SourceBlock.ofLines rest with
    | error fault => rfl
    | ok blocks => simp only [outcome, Except.map, List.map_cons, hb, collect_error]

/-- Reading is scanning for the top-level blocks and collecting what they stand for. -/
theorem read_eq (previous : PreviousOutput) (found : Program) (errors : SyntaxErrors)
    (lines : List Line) :
    read previous found errors lines =
      outcome previous found errors (SourceBlock.ofLines lines) := by
  induction lines using SourceBlock.ofLines.induct generalizing found errors with
  | case1 => simp [read, SourceBlock.ofLines_nil, outcome, collect]
  | case2 line lines h ih =>
    have hstep : step previous line lines = .skip := by rw [step_eq, h]
    rw [SourceBlock.ofLines_skip h, ← ih, read, hstep]
  | case3 line lines h ih =>
    have hstep := step_eq previous line lines
    rw [h] at hstep
    rw [SourceBlock.ofLines_line h]
    exact read_entry hstep ih found errors
  | case4 line lines d kind h hb =>
    have hstep := step_eq previous line lines
    rw [h] at hstep
    dsimp only at hstep
    rw [hb] at hstep
    rw [SourceBlock.ofLines_unterminated h hb, read, hstep]
    rfl
  | case5 line lines d kind h block rest hb ih =>
    have hstep := step_eq previous line lines
    rw [h] at hstep
    dsimp only at hstep
    rw [hb] at hstep
    rw [SourceBlock.ofLines_block h hb]
    exact read_entry hstep ih found errors

theorem collect_found (found : Program) (errors : SyntaxErrors)
    (results : List (Except SyntaxError Construct)) :
    collect found errors results = (collect [] errors results).map (found ++ ·) := by
  simp only [collect, List.nil_append]
  split <;> rfl

theorem collect_errors_ne_ok {found program : Program} {errors : SyntaxErrors} (h : errors ≠ [])
    (results : List (Except SyntaxError Construct)) : collect found errors results ≠ .ok program := by
  simp [collect, h]

theorem collect_eq_ok_iff {results : List (Except SyntaxError Construct)} {program : Program} :
    collect [] [] results = .ok program ↔ results = program.map .ok := by
  induction results generalizing program with
  | nil => cases program <;> simp [collect]
  | cons result results ih =>
    cases result with
    | error error =>
      -- An error stays, whatever the results after it are.
      have hne : collect [] [error] results ≠ .ok program :=
        collect_errors_ne_ok (List.cons_ne_nil error []) results
      rw [collect_error, List.nil_append]
      cases program <;> simp [hne]
    | ok construct =>
      rw [collect_ok, List.nil_append, collect_found]
      cases program with
      | nil => cases collect [] [] results <;> simp [Except.map]
      | cons c program =>
        have hmap : (collect [] [] results).map ([construct] ++ ·) = .ok (c :: program) ↔
            construct = c ∧ collect [] [] results = .ok program := by
          cases collect [] [] results <;> simp [Except.map]
        rw [hmap, ih]
        simp

/-- A source can be read if and only if its blocks all end and each of them stands for a construct. -/
theorem readProgram_eq_ok_iff {source previous : Text} {program : Program} :
    readProgram source previous = .ok program ↔
      ∃ blocks, SourceBlock.ofLines (Line.ofSource source) = .ok blocks ∧
        blocks.map (SourceBlock.construct (.ofText previous)) = program.map .ok := by
  rw [readProgram, read_eq]
  cases SourceBlock.ofLines (Line.ofSource source) with
  | error fault => simp [outcome]
  | ok blocks => simp [outcome, collect_eq_ok_iff]

end Reader

end StubCompiler
