import StubCompiler.Proofs.Outcome

/-!
# Reading two sources, one behind the other

A source that has an end to each of its blocks can be followed by any other: the scan leaves the first
source at its last line and enters the second one at its first.  So the constructs, or the errors, of the
whole are those of the parts, and the errors of the second part are as far down as it is.
-/

namespace StubCompiler

/-! ### Lines further down -/

/-- The number of bytes that lines take, each with its line break. -/
def Text.lineBytes : List Text → Nat
  | [] => 0
  | t :: ts => t.byteLength + 1 + lineBytes ts

namespace Line

theorem consecutive_append (first start : Nat) (ts us : List Text) :
    consecutive first start (ts ++ us) =
      consecutive first start ts ++ consecutive (first + ts.length) (start + Text.lineBytes ts) us := by
  induction ts generalizing first start with
  | nil => simp [consecutive, Text.lineBytes]
  | cons t ts ih =>
    have hfirst : first + 1 + ts.length = first + (ts.length + 1) := by omega
    have hstart : start + t.byteLength + 1 + Text.lineBytes ts =
        start + (t.byteLength + 1 + Text.lineBytes ts) := by omega
    simp only [List.cons_append, consecutive, ih, List.length_cons, Text.lineBytes, hfirst, hstart]

theorem consecutive_add (m n first start : Nat) (ts : List Text) :
    consecutive (first + m) (start + n) ts = (consecutive first start ts).map (shift m n) := by
  induction ts generalizing first start with
  | nil => rfl
  | cons t ts ih =>
    have hrest := ih (first + 1) (start + t.byteLength + 1)
    have hfirst : first + 1 + m = first + m + 1 := by omega
    have hstart : start + t.byteLength + 1 + n = start + n + t.byteLength + 1 := by omega
    rw [hfirst, hstart] at hrest
    simp only [consecutive, List.map_cons, hrest, shift]

theorem span_shift (m n : Nat) (line : Line) :
    (line.shift m n).span = ⟨line.span.start + n, line.span.stop + n⟩ := by
  simp only [span, shift, Span.mk.injEq, true_and]
  omega

end Line

def Text.terminated (ts : List Text) : Text := ts.flatMap fun t => t ++ ['\n']

theorem Text.terminated_cons (t : Text) (ts : List Text) :
    terminated (t :: ts) = t ++ ['\n'] ++ terminated ts := by
  rw [terminated, List.flatMap_cons, ← terminated]

theorem Text.byteLength_terminated (ts : List Text) : (terminated ts).byteLength = lineBytes ts := by
  induction ts with
  | nil => rfl
  | cons t ts ih =>
    have hone : byteLength ['\n'] = 1 := by decide
    rw [terminated_cons, byteLength_append, byteLength_append, hone, ih, lineBytes]

theorem Text.terminated_eq {ts : List Text} (hne : ts ≠ []) : terminated ts = unlines ts ++ ['\n'] := by
  induction ts with
  | nil => exact absurd rfl hne
  | cons t ts ih =>
    cases ts with
    | nil => simp [terminated, unlines]
    | cons u us =>
      have hne' : u :: us ≠ [] := List.cons_ne_nil u us
      rw [terminated_cons, ih hne', unlines, unlines, List.intercalate_cons_of_ne_nil hne',
        List.append_assoc (t ++ ['\n'])]

/-- Every line but the last is followed by a line break, which takes one byte. -/
theorem Text.lineBytes_lines (t : Text) : lineBytes t.lines = t.byteLength + 1 := by
  have hne : t.lines ≠ [] := List.splitOn_ne_nil '\n' t
  rw [← byteLength_terminated, terminated_eq hne, unlines_lines, byteLength_append]
  rfl

/-- The lines of two sources with a line break between them. -/
theorem Line.ofSource_append (a b : Text) :
    ofSource (a ++ '\n' :: b) =
      ofSource a ++ (ofSource b).map (shift a.lines.length (a.byteLength + 1)) := by
  rw [ofSource, Text.lines_append_newline, consecutive_append, Text.lineBytes_lines,
    consecutive_add]
  rfl

/-! ### Blocks further down -/

theorem Delimiter.closes_shift (d : Delimiter) (m n : Nat) (line : Line) :
    d.closes (line.shift m n) = d.closes line :=
  d.closes_congr rfl

theorem Delimiter.Closed.shift {d : Delimiter} {lines : List Line} (h : d.Closed lines) (m n : Nat) :
    d.Closed (lines.map (Line.shift m n)) :=
  h.congr (by simp)

def SourceBlock.shift (m n : Nat) (b : SourceBlock) : SourceBlock :=
  ⟨b.header.shift m n, b.lines.map (Line.shift m n)⟩

theorem Line.unlines_map_shift (m n : Nat) (lines : List Line) :
    unlines (lines.map (shift m n)) = unlines lines := by
  simp [unlines, Function.comp_def]

theorem Header.comment_map_shift (m n : Nat) (body : List Line) :
    comment (body.map (Line.shift m n)) = comment body := by
  have htest : isComment ∘ Line.shift m n = isComment := rfl
  rw [comment, List.filter_map, htest, Line.unlines_map_shift]
  rfl

theorem Header.stub_shift (m n : Nat) (header : Line) (body : List Line) :
    stub (header.shift m n) (body.map (Line.shift m n)) =
      (stub header body).mapError (Fault.shift m n) := by
  simp only [stub, Line.shift_text, comment_map_shift]
  cases name? header.text with
  | none => rfl
  | some name => cases argumentList? header.text <;> rfl

theorem PreviousOutput.resolve_shift (previous : PreviousOutput) (m n : Nat) (header : Line)
    (stub : Stub) :
    previous.resolve (header.shift m n) stub =
      (previous.resolve header stub).mapError (SyntaxError.shift m n) := by
  rw [resolve, resolve]
  cases previous.function? stub.name with
  | error cause => rfl
  | ok body => cases body <;> rfl

theorem Reader.function_shift (previous : PreviousOutput) (isPinned : Bool) (m n : Nat) (header : Line)
    (block : List Line) :
    function previous isPinned (header.shift m n) (block.map (Line.shift m n)) =
      (function previous isPinned header block).mapError (SyntaxError.shift m n) := by
  have hbody : (block.map (Line.shift m n)).tail.dropLast =
      block.tail.dropLast.map (Line.shift m n) := by simp
  rw [function, function, hbody, Header.stub_shift]
  cases Header.stub header block.tail.dropLast with
  | error fault => rfl
  | ok stub =>
    cases isPinned with
    | false => rfl
    | true => exact previous.resolve_shift m n header stub

theorem Reader.union_shift (m n : Nat) (header : Line) (block : List Line) :
    union (header.shift m n) (block.map (Line.shift m n)) =
      (union header block).mapError (SyntaxError.shift m n) := by
  have htexts : (block.map (Line.shift m n)).map (fun line => line.text.trim) =
      block.map fun line => line.text.trim := by simp [Function.comp_def]
  simp only [union, htexts]
  generalize Text.cutAt? '=' _ = cut
  cases cut with
  | none => rfl
  | some parts => by_cases hname : parts.1.trim = [] <;> simp only [hname, if_true, if_false] <;> rfl

namespace SourceBlock

/-- A block stands for the same further down, and its error is about the line where it is then. -/
theorem construct_shift (previous : PreviousOutput) (m n : Nat) (b : SourceBlock) :
    (b.shift m n).construct previous = (b.construct previous).mapError (SyntaxError.shift m n) := by
  have hkind : (b.shift m n).header.kind = b.header.kind := rfl
  rw [construct, construct, hkind]
  cases b.header.kind with
  | pinnedFunction => exact Reader.function_shift previous true m n b.header b.lines
  | function => exact Reader.function_shift previous false m n b.header b.lines
  | unionType => exact Reader.union_shift m n b.header b.lines
  | typeDefinition =>
    show Except.ok (Construct.typeDefinition (Line.unlines (b.lines.map (Line.shift m n)))) = _
    rw [Line.unlines_map_shift]
    rfl
  | _ => rfl

end SourceBlock

namespace Scan

theorem shift {lines : List Line} {blocks : List SourceBlock} {stop : Option Fault}
    (h : Scan lines blocks stop) (m n : Nat) :
    Scan (lines.map (Line.shift m n)) (blocks.map (SourceBlock.shift m n))
      (stop.map (Fault.shift m n)) := by
  induction h with
  | done => exact .done
  | skip extent _ ih => exact .skip extent ih
  | line extent _ ih => exact .line extent ih
  | block extent eq closed _ ih =>
    have heq := congrArg (List.map (Line.shift m n)) eq
    rw [List.map_cons, List.map_append] at heq
    exact .block extent heq (closed.shift m n) ih
  | unterminated extent unclosed =>
    refine .unterminated extent ?_
    intro l hl
    rw [← List.map_cons] at hl
    obtain ⟨line, hline, rfl⟩ := List.mem_map.1 hl
    rw [Delimiter.closes_shift]
    exact unclosed line hline

/-- A scan that reaches the end goes on in whatever follows. -/
theorem append {xs ys : List Line} {blocks more : List SourceBlock} {stop : Option Fault}
    (h : Scan xs blocks none) (h' : Scan ys more stop) : Scan (xs ++ ys) (blocks ++ more) stop := by
  generalize hend : none = atEnd at h
  induction h with
  | done => exact h'
  | skip extent _ ih => exact .skip extent (ih hend)
  | line extent _ ih => exact .line extent (ih hend)
  | @block line lines block rest _ _ _ _ extent eq closed _ ih =>
    have heq : line :: (lines ++ ys) = block ++ (rest ++ ys) := by
      rw [← List.cons_append, eq, List.append_assoc]
    exact .block extent heq closed (ih hend)
  | unterminated _ _ => cases hend -- such a scan has not reached the end

end Scan

/-! ### Reading -/

namespace Reader

theorem errors_map_mapError (f : SyntaxError → SyntaxError)
    (results : List (Except SyntaxError Construct)) :
    errors (results.map (Except.mapError f)) = (errors results).map f := by
  induction results with
  | nil => rfl
  | cons result results ih => cases result <;> simp [Except.mapError, ih]

theorem constructs_map_mapError (f : SyntaxError → SyntaxError)
    (results : List (Except SyntaxError Construct)) :
    constructs (results.map (Except.mapError f)) = constructs results := by
  induction results with
  | nil => rfl
  | cons result results ih => cases result <;> simp [Except.mapError, ih]

end Reader

theorem SyntaxError.line_shift (m n : Nat) (error : SyntaxError) :
    (error.shift m n).line = error.line.shift m n := by
  cases error <;> rfl

theorem SourceBlock.map_construct_shift (previous : PreviousOutput) (m n : Nat)
    (blocks : List SourceBlock) :
    (blocks.map (shift m n)).map (construct previous) =
      (blocks.map (construct previous)).map (Except.mapError (SyntaxError.shift m n)) := by
  simp [Function.comp_def, construct_shift]

open Reader in
/-- Reading is a homomorphism: behind a source whose blocks all end, another one is read as it is by
itself, with its errors shifted by the lines and the bytes before it. -/
theorem readProgram_append (a b previous : Text)
    (ha : ∀ kind line, ¬ IsUnterminated (readProgram a previous) kind line) :
    (∀ kind line, IsUnterminated (readProgram b previous) kind line →
      IsUnterminated (readProgram (a ++ '\n' :: b) previous) kind
        (line.shift a.lines.length (a.byteLength + 1))) ∧
    ((∀ kind line, ¬ IsUnterminated (readProgram b previous) kind line) →
      (∀ p q, readProgram a previous = .ok p → readProgram b previous = .ok q →
        readProgram (a ++ '\n' :: b) previous = .ok (p ++ q)) ∧
      ((¬ ∃ p q, readProgram a previous = .ok p ∧ readProgram b previous = .ok q) →
        readProgram (a ++ '\n' :: b) previous =
          .error (errorsOf (readProgram a previous) ++
            (errorsOf (readProgram b previous)).map
              (SyntaxError.shift a.lines.length (a.byteLength + 1))))) ∧
    ∀ error : SyntaxError,
      (error.shift a.lines.length (a.byteLength + 1)).line.span =
        ⟨error.line.span.start + (a.byteLength + 1), error.line.span.stop + (a.byteLength + 1)⟩ := by
  obtain ⟨xs, stop, hxs⟩ := Scan.exists_scan (Line.ofSource a)
  obtain rfl : stop = none := (hxs.stop_eq_none_iff previous).2 ha
  obtain ⟨ys, stop, hys⟩ := Scan.exists_scan (Line.ofSource b)
  have hboth := hxs.append (hys.shift a.lines.length (a.byteLength + 1))
  rw [← Line.ofSource_append] at hboth
  refine ⟨?_, ?_, ?_⟩
  · intro kind line hb
    rw [hys.isUnterminated_iff] at hb
    rw [hboth.isUnterminated_iff, hb]
    rfl
  · intro hb
    obtain rfl : stop = none := (hys.stop_eq_none_iff previous).2 hb
    have hread := readProgram_eq hboth previous
    simp only [Option.map_none, List.map_append, SourceBlock.map_construct_shift] at hread
    rw [hread, readProgram_eq hxs, readProgram_eq hys]
    dsimp only
    -- From here on only what the blocks stand for matters, not the lines.
    generalize xs.map (SourceBlock.construct (.ofText previous)) = rs
    generalize ys.map (SourceBlock.construct (.ofText previous)) = ss
    constructor
    · intro p q hp hq
      obtain ⟨hrs, rfl⟩ := collect_eq_ok hp
      obtain ⟨hss, rfl⟩ := collect_eq_ok hq
      rw [collect_eq, errors_append, errors_map_mapError, hrs, hss, constructs_append,
        constructs_map_mapError]
      rfl
    · intro hfail
      rw [collect_eq, errors_append, errors_map_mapError, errorsOf_collect, errorsOf_collect]
      refine if_neg ?_
      intro hnil
      obtain ⟨hrs, hss⟩ := List.append_eq_nil_iff.1 hnil
      have hss' : errors ss = [] := List.map_eq_nil_iff.1 hss
      refine hfail ⟨constructs rs, constructs ss, ?_, ?_⟩
      · rw [collect_eq, if_pos hrs]
      · rw [collect_eq, if_pos hss']
  · intro error
    rw [SyntaxError.line_shift, Line.span_shift]

open Reader in
theorem readProgram_append_of_two_errors :
    let a : Text := "// é\nfunction (): void \x7b\n\x7d"
    let b : Text := "union type Z;"
    (∀ kind line, ¬ IsUnterminated (readProgram a []) kind line) ∧
      readProgram (a ++ '\n' :: b) [] =
        .error [.inSource ⟨.missingFunctionName, ⟨2, 6, "function (): void \x7b"⟩⟩,
          .inSource ⟨.missingUnionName, ⟨4, 28, "union type Z;"⟩⟩] := by
  intro a b
  have ha : readProgram a [] =
      .error [.inSource ⟨.missingFunctionName, ⟨2, 6, "function (): void \x7b"⟩⟩] := by
    decide +kernel
  have hb : readProgram b [] = .error [.inSource ⟨.missingUnionName, ⟨1, 0, "union type Z;"⟩⟩] := by
    decide +kernel
  have hends : ∀ kind line, ¬ IsUnterminated (readProgram a []) kind line := by
    intro kind line h
    rw [IsUnterminated, ha] at h
    cases h
  have hends' : ∀ kind line, ¬ IsUnterminated (readProgram b []) kind line := by
    intro kind line h
    rw [IsUnterminated, hb] at h
    cases h
  have hfail : ¬ ∃ p q, readProgram a [] = .ok p ∧ readProgram b [] = .ok q := by
    rintro ⟨p, q, hp, -⟩
    rw [ha] at hp
    cases hp
  obtain ⟨-, hjoin, -⟩ := readProgram_append a b [] hends
  refine ⟨hends, ?_⟩
  rw [(hjoin hends').2 hfail, ha, hb]
  decide

end StubCompiler
