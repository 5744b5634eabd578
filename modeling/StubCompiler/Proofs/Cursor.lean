import StubCompiler.Proofs.Loop
import StubCompiler.Proofs.Lookup

/-!
# Positions in a source

A source can be read with a position in its lines instead of by what is left of it: a block is a slice
from the position on, its body a slice of the block.  A slice or an index that is out of range traps.
No turn of the loop does, neither when a source is read nor when the last output is searched, because a
position never passes the last line and the header of a function does not close its own block.
-/

namespace StubCompiler

/-! ### Slices of lines -/

namespace Line

def slice? (lines : List Line) (start stop : Nat) : Option (List Line) :=
  if start ≤ stop ∧ stop ≤ lines.length then some ((lines.take stop).drop start) else none

theorem slice?_drop {lines : List Line} {pos : Nat} (h : pos ≤ lines.length) :
    slice? lines pos lines.length = some (lines.drop pos) := by
  rw [slice?, if_pos ⟨h, Nat.le_refl _⟩, List.take_length]

theorem slice?_take (block rest : List Line) :
    slice? (block ++ rest) 0 block.length = some block := by
  have hle : block.length ≤ (block ++ rest).length := by
    rw [List.length_append]
    omega
  rw [slice?, if_pos ⟨Nat.zero_le _, hle⟩, List.drop_zero, List.take_left]

theorem slice?_inner (header close : Line) (body : List Line) :
    slice? (header :: (body ++ [close])) 1 (body.length + 1) = some body := by
  have hle : body.length + 1 ≤ (header :: (body ++ [close])).length := by simp
  rw [slice?, if_pos ⟨by omega, hle⟩, List.take_succ_cons, List.drop_one, List.tail_cons,
    List.take_left]

theorem drop_eq_cons {lines : List Line} {pos : Nat} {line : Line} (h : lines[pos]? = some line) :
    pos < lines.length ∧ lines.drop pos = line :: lines.drop (pos + 1) := by
  obtain ⟨hlt, rfl⟩ := List.getElem?_eq_some_iff.1 h
  exact ⟨hlt, List.drop_eq_getElem_cons hlt⟩

theorem drop_eq_nil {lines : List Line} {pos : Nat} (h : lines[pos]? = none) : lines.drop pos = [] := by
  rw [List.drop_eq_nil_iff]
  exact List.getElem?_eq_none_iff.1 h

end Line

/-! ### Blocks at a position -/

/-- The block that begins at `pos` and the position behind it, or the line there if nothing closes it. -/
def Delimiter.blockAt? (d : Delimiter) (lines : List Line) (pos : Nat) :
    Option (Except Line (List Line × Nat)) := do
  let rest ← Line.slice? lines pos lines.length
  match d.end? rest with
  | none => return .error (← rest[0]?)
  | some stop => return .ok (← Line.slice? rest 0 (stop + 1), pos + stop + 1)

/-- The block is its header, the lines of its body, and the only line of it that is a closing brace. -/
structure Encloses (block : List Line) (header : Line) (body : List Line) : Prop where
  eq : ∃ close : Line, block = header :: (body ++ [close]) ∧ close.text.trim = "\x7d"
  ne_close : ∀ l ∈ header :: body, l.text.trim ≠ "\x7d"

section

variable {d : Delimiter} {lines block rest body : List Line} {line : Line} {pos : Nat}

theorem Delimiter.blockAt?_of_none (hline : lines[pos]? = some line)
    (hb : d.block? (line :: lines.drop (pos + 1)) = none) :
    d.blockAt? lines pos = some (.error line) := by
  obtain ⟨hlt, hdrop⟩ := Line.drop_eq_cons hline
  have hend := d.end?_eq_map_block? (line :: lines.drop (pos + 1))
  rw [hb, Option.map_none] at hend
  rw [blockAt?, Line.slice?_drop (Nat.le_of_lt hlt), hdrop]
  simp only [Option.bind_eq_bind, Option.bind_some, hend]
  rfl

theorem Delimiter.blockAt?_of_some (hline : lines[pos]? = some line)
    (hb : d.block? (line :: lines.drop (pos + 1)) = some (block, rest)) :
    d.blockAt? lines pos = some (.ok (block, pos + block.length)) := by
  obtain ⟨hlt, hdrop⟩ := Line.drop_eq_cons hline
  have hpos : 0 < block.length := List.length_pos_iff.2 (Delimiter.ne_nil_of_block? hb)
  have hend := d.end?_eq_map_block? (line :: lines.drop (pos + 1))
  rw [hb, Option.map_some] at hend
  have hstop : block.length - 1 + 1 = block.length := by omega
  rw [blockAt?, Line.slice?_drop (Nat.le_of_lt hlt), hdrop]
  simp only [Option.bind_eq_bind, Option.bind_some, hend, hstop, Nat.add_assoc]
  rw [Delimiter.eq_of_block? hb, Line.slice?_take]
  rfl

/-- Behind the block stands what is left after it. -/
theorem Delimiter.drop_of_block? (hline : lines[pos]? = some line)
    (hb : d.block? (line :: lines.drop (pos + 1)) = some (block, rest)) :
    lines.drop (pos + block.length) = rest ∧ pos + block.length ≤ lines.length ∧ 0 < block.length := by
  obtain ⟨hlt, hdrop⟩ := Line.drop_eq_cons hline
  have heq := Delimiter.eq_of_block? hb
  rw [← hdrop] at heq
  have hlength := congrArg List.length heq
  rw [List.length_drop, List.length_append] at hlength
  refine ⟨?_, by omega, List.length_pos_iff.2 (Delimiter.ne_nil_of_block? hb)⟩
  rw [← List.drop_drop, heq, List.drop_left]

theorem closes_of_startsFunction (h : line.kind.startsFunction = true) :
    Delimiter.brace.closes line = false := by
  cases hkind : line.kind with
  | close =>
    rw [hkind] at h
    cases h
  | _ => simp [Delimiter.closes, hkind]

/-- The line that starts a function does not close its own block. -/
theorem exists_encloses (hheader : line.kind.startsFunction = true)
    (hb : Delimiter.brace.block? (line :: lines) = some (block, rest)) :
    ∃ body, Encloses block line body := by
  have hclose : ∀ l : Line, Delimiter.brace.closes l = false → l.text.trim ≠ "\x7d" := by
    intro l hl htext
    rw [Delimiter.closes, Line.kind_eq_close_iff.2 htext] at hl
    cases hl
  have hline := closes_of_startsFunction hheader
  have heq := Delimiter.eq_of_block? hb
  obtain ⟨before, close, rfl, hlast, hbefore⟩ := Delimiter.closed_of_block? hb
  cases before with
  | nil =>
    obtain rfl : line = close := (List.cons.inj heq).1
    rw [hline] at hlast
    cases hlast
  | cons first body =>
    obtain rfl : line = first := (List.cons.inj heq).1
    have hkind : close.kind = .close := by simpa [Delimiter.closes] using hlast
    exact ⟨body, ⟨close, rfl, Line.kind_eq_close_iff.1 hkind⟩, fun l hl => hclose l (hbefore l hl)⟩

theorem Encloses.slice?_eq (h : Encloses block line body) :
    Line.slice? block 1 (block.length - 1) = some body := by
  obtain ⟨close, rfl, -⟩ := h.eq
  have hlength : (line :: (body ++ [close])).length - 1 = body.length + 1 := by simp
  rw [hlength]
  exact Line.slice?_inner line close body

theorem Encloses.two_le (h : Encloses block line body) : 2 ≤ block.length := by
  obtain ⟨close, rfl, -⟩ := h.eq
  simp

end

/-! ### The reader -/

namespace Reader

/-- Where the reader stands, and what it has found so far. -/
structure Cursor where
  pos : Nat
  found : Program
  errors : SyntaxErrors
deriving DecidableEq, Repr

/-- The construct of a function block, whose body is the slice between its first and its last line. -/
def functionOf? (previous : PreviousOutput) (isPinned : Bool) (block : List Line) :
    Option (Except SyntaxError Construct) := do
  let header ← block[0]?
  let body ← Line.slice? block 1 (block.length - 1)
  match Header.stub header body with
  | .error fault => return .error (.inSource fault)
  | .ok stub => return if isPinned then previous.resolve header stub else .ok (.function stub)

def unionOf? (block : List Line) : Option (Except SyntaxError Construct) := do
  return union (← block[0]?) block

namespace Cursor

variable {previous : PreviousOutput} {lines block rest : List Line} {line : Line} {c : Cursor}

/-- Goes on at `pos` with one more construct, or one more error. -/
def record (c : Cursor) (pos : Nat) : Except SyntaxError Construct → Cursor
  | .ok construct => ⟨pos, c.found ++ [construct], c.errors⟩
  | .error error => ⟨pos, c.found, c.errors ++ [error]⟩

def takeBlock (d : Delimiter) (kind : BlockKind) (lines : List Line)
    (construct? : List Line → Option (Except SyntaxError Construct)) (c : Cursor) :
    Turn Cursor (Except SyntaxErrors Program) :=
  match d.blockAt? lines c.pos with
  | none => .trap
  | some (.error opening) => .finish (.error [.inSource ⟨.unterminated kind, opening⟩])
  | some (.ok (block, pos)) =>
    match construct? block with
    | none => .trap
    | some construct => .next (c.record pos construct)

@[simp] theorem pos_record (c : Cursor) (pos : Nat) (construct : Except SyntaxError Construct) :
    (c.record pos construct).pos = pos := by
  cases construct <;> rfl

def turn (previous : PreviousOutput) (lines : List Line) (c : Cursor) :
    Turn Cursor (Except SyntaxErrors Program) :=
  match lines[c.pos]? with
  | none => .finish (if c.errors = [] then .ok c.found else .error c.errors)
  | some line =>
    match line.kind with
    | .pinnedFunction => c.takeBlock .brace .function lines (functionOf? previous true)
    | .function => c.takeBlock .brace .function lines (functionOf? previous false)
    | .unionType => c.takeBlock .terminator .unionType lines unionOf?
    | .typeDefinition =>
      c.takeBlock .brace .typeDefinition lines fun block =>
        some (.ok (.typeDefinition (Line.unlines block)))
    | .exportList => .next (c.record (c.pos + 1) (.ok (exportList line)))
    | .close | .blank | .other => .next { c with pos := c.pos + 1 }

theorem functionOf?_eq (isPinned : Bool) (hheader : line.kind.startsFunction = true)
    (hb : Delimiter.brace.block? (line :: lines) = some (block, rest)) :
    functionOf? previous isPinned block = some (function previous isPinned line block) := by
  obtain ⟨body, hencloses⟩ := exists_encloses hheader hb
  have hslice := hencloses.slice?_eq
  obtain ⟨close, rfl, -⟩ := hencloses.eq
  have hbody : (line :: (body ++ [close])).tail.dropLast = body := by
    rw [List.tail_cons, List.dropLast_concat]
  simp only [functionOf?, hslice, List.getElem?_cons_zero, Option.bind_eq_bind, Option.bind_some,
    function, hbody]
  cases Header.stub line body <;> rfl

theorem unionOf?_eq {d : Delimiter} (hb : d.block? (line :: lines) = some (block, rest)) :
    unionOf? block = some (union line block) := by
  have heq := Delimiter.eq_of_block? hb
  cases block with
  | nil => exact absurd rfl (Delimiter.ne_nil_of_block? hb)
  | cons first block =>
    obtain rfl : line = first := (List.cons.inj heq).1
    rfl

theorem takeBlock_eq {d : Delimiter} (kind : BlockKind)
    {construct? : List Line → Option (Except SyntaxError Construct)} (hline : lines[c.pos]? = some line)
    (hconstruct : ∀ block rest, d.block? (line :: lines.drop (c.pos + 1)) = some (block, rest) →
      construct? block = some (SourceBlock.construct previous ⟨line, block⟩)) :
    c.takeBlock d kind lines construct? =
      match d.block? (line :: lines.drop (c.pos + 1)) with
      | none => .finish (.error [.inSource ⟨.unterminated kind, line⟩])
      | some (block, _) =>
        .next (c.record (c.pos + block.length) (SourceBlock.construct previous ⟨line, block⟩)) := by
  rw [takeBlock]
  cases hb : d.block? (line :: lines.drop (c.pos + 1)) with
  | none => rw [Delimiter.blockAt?_of_none hline hb]
  | some parts =>
    obtain ⟨block, rest⟩ := parts
    rw [Delimiter.blockAt?_of_some hline hb]
    simp only [hconstruct block rest hb]

/-- A turn does what a step of reading does with what is left of the source. -/
theorem turn_eq (previous : PreviousOutput) (hline : lines[c.pos]? = some line) :
    turn previous lines c = match line.kind.extent with
      | .none => .next { c with pos := c.pos + 1 }
      | .line => .next (c.record (c.pos + 1) (SourceBlock.construct previous ⟨line, [line]⟩))
      | .block d kind => match d.block? (line :: lines.drop (c.pos + 1)) with
        | none => .finish (.error [.inSource ⟨.unterminated kind, line⟩])
        | some (block, _) =>
          .next (c.record (c.pos + block.length) (SourceBlock.construct previous ⟨line, block⟩)) := by
  rw [turn, hline]
  dsimp only
  cases hkind : line.kind with
  | pinnedFunction =>
    refine takeBlock_eq .function hline fun block rest hb => ?_
    rw [functionOf?_eq true (by rw [hkind]; rfl) hb, SourceBlock.construct, hkind]
  | function =>
    refine takeBlock_eq .function hline fun block rest hb => ?_
    rw [functionOf?_eq false (by rw [hkind]; rfl) hb, SourceBlock.construct, hkind]
  | unionType =>
    refine takeBlock_eq .unionType hline fun block rest hb => ?_
    rw [unionOf?_eq hb, SourceBlock.construct, hkind]
  | typeDefinition =>
    refine takeBlock_eq .typeDefinition hline fun block rest _ => ?_
    rw [SourceBlock.construct, hkind]
  | exportList => simp only [LineKind.extent, SourceBlock.construct, hkind]
  | _ => rfl

/-- The position is in range, and reading what is left leads to `result`. -/
structure Follows (previous : PreviousOutput) (lines : List Line)
    (result : Except SyntaxErrors Program) (c : Cursor) : Prop where
  pos_le : c.pos ≤ lines.length
  read_eq : read previous c.found c.errors (lines.drop c.pos) = result

theorem Follows.record {result : Except SyntaxErrors Program} {n : Nat}
    {construct : Except SyntaxError Construct} (h : c.Follows previous lines result)
    (hline : lines[c.pos]? = some line) (hle : c.pos + n ≤ lines.length)
    (hstep : step previous line (lines.drop (c.pos + 1)) = .entry construct (lines.drop (c.pos + n))) :
    (c.record (c.pos + n) construct).Follows previous lines result := by
  have hread := h.read_eq
  rw [(Line.drop_eq_cons hline).2] at hread
  cases construct with
  | ok construct =>
    rw [read_ok hstep] at hread
    exact ⟨hle, hread⟩
  | error error =>
    rw [read_error hstep] at hread
    exact ⟨hle, hread⟩

/-- The step lemma of the reader: no turn traps, and every turn that goes on leaves less to read. -/
theorem progresses (previous : PreviousOutput) (lines : List Line) (result : Except SyntaxErrors Program) :
    Turn.Progresses (turn previous lines) (Follows previous lines result)
      (fun c => lines.length - c.pos) result := by
  intro c hc
  cases hline : lines[c.pos]? with
  | none =>
    have hread := hc.read_eq
    rw [Line.drop_eq_nil hline, read] at hread
    left
    rw [turn, hline, ← hread]
  | some line =>
    obtain ⟨hlt, hdrop⟩ := Line.drop_eq_cons hline
    have hstep := step_eq previous line (lines.drop (c.pos + 1))
    have hturn := turn_eq previous hline
    cases hextent : line.kind.extent with
    | none =>
      rw [hextent] at hstep hturn
      have hread := hc.read_eq
      rw [hdrop, read, hstep] at hread
      refine Or.inr ⟨_, hturn, ⟨hlt, hread⟩, ?_⟩
      dsimp only
      omega
    | line =>
      rw [hextent] at hstep hturn
      refine Or.inr ⟨_, hturn, hc.record hline hlt hstep, ?_⟩
      dsimp only
      rw [pos_record]
      omega
    | block d kind =>
      rw [hextent] at hstep hturn
      dsimp only at hstep hturn
      cases hb : d.block? (line :: lines.drop (c.pos + 1)) with
      | none =>
        rw [hb] at hstep hturn
        have hread := hc.read_eq
        rw [hdrop, read, hstep] at hread
        rw [← hread]
        exact Or.inl hturn
      | some parts =>
        obtain ⟨block, rest⟩ := parts
        obtain ⟨hrest, hle, hpos⟩ := Delimiter.drop_of_block? hline hb
        rw [hb] at hstep hturn
        rw [← hrest] at hstep
        refine Or.inr ⟨_, hturn, hc.record hline hle hstep, ?_⟩
        dsimp only
        rw [pos_record]
        omega

end Cursor

end Reader

/-! ### The search of the last output -/

namespace PreviousOutput

def searchTurn (name : Text) (lines : List Line) (pos : Nat) : Turn Nat (Except Fault (Option Text)) :=
  match lines[pos]? with
  | none => .finish (.ok none)
  | some line =>
    if isHeader line then
      match Delimiter.brace.blockAt? lines pos with
      | none => .trap
      | some (.error opening) => .finish (.error ⟨.unterminated .function, opening⟩)
      | some (.ok (block, next)) =>
        match Header.name? line.text with
        | none => .finish (.error ⟨.missingFunctionName, line⟩)
        | some found => if found = name then .finish (.ok (some (Line.unlines block))) else .next next
    else .next (pos + 1)

theorem searchTurn_progresses (name : Text) (lines : List Line) (result : Except Fault (Option Text)) :
    Turn.Progresses (searchTurn name lines)
      (fun pos => pos ≤ lines.length ∧ search name (lines.drop pos) = result)
      (fun pos => lines.length - pos) result := by
  rintro pos ⟨hle, hsearch⟩
  rw [searchTurn]
  cases hline : lines[pos]? with
  | none =>
    rw [Line.drop_eq_nil hline, search] at hsearch
    rw [← hsearch]
    exact Or.inl rfl
  | some line =>
    obtain ⟨hlt, hdrop⟩ := Line.drop_eq_cons hline
    rw [hdrop] at hsearch
    dsimp only
    cases hheader : isHeader line with
    | false =>
      rw [search_skip hheader] at hsearch
      rw [if_neg Bool.false_ne_true]
      refine Or.inr ⟨pos + 1, rfl, ⟨hlt, hsearch⟩, ?_⟩
      omega
    | true =>
      rw [if_pos rfl]
      cases hb : Delimiter.brace.block? (line :: lines.drop (pos + 1)) with
      | none =>
        rw [search_unterminated hheader hb] at hsearch
        rw [Delimiter.blockAt?_of_none hline hb, ← hsearch]
        exact Or.inl rfl
      | some parts =>
        obtain ⟨block, rest⟩ := parts
        obtain ⟨hrest, hle', hpos⟩ := Delimiter.drop_of_block? hline hb
        rw [search_header hheader hb] at hsearch
        rw [Delimiter.blockAt?_of_some hline hb]
        cases hname : Header.name? line.text with
        | none =>
          rw [hname] at hsearch
          rw [← hsearch]
          exact Or.inl rfl
        | some found =>
          rw [hname] at hsearch
          dsimp only at hsearch ⊢
          by_cases hfound : found = name
          · rw [if_pos hfound] at hsearch
            rw [if_pos hfound, ← hsearch]
            exact Or.inl rfl
          · rw [if_neg hfound, ← hrest] at hsearch
            rw [if_neg hfound]
            refine Or.inr ⟨_, rfl, ⟨hle', hsearch⟩, ?_⟩
            omega

end PreviousOutput

/-! ### Both loops -/

section

variable {σ ρ : Type}

/-- The loop reads `lines` with the position `pos`, begins in `first` and ends with `result`. -/
structure StaysInRange (turn : σ → Turn σ ρ) (pos : σ → Nat) (lines : List Line) (first : σ)
    (result : ρ) : Prop where
  pos_le : ∀ s, Turn.Reaches turn first s → pos s ≤ lines.length
  ne_trap : ∀ s, Turn.Reaches turn first s → turn s ≠ .trap
  pos_lt : ∀ s t, Turn.Reaches turn first s → turn s = .next t → pos s < pos t
  ends : Turn.Ends turn first result
  /-- Where a turn finds a line, this line is the first of the rest. -/
  rest : ∀ s line, Turn.Reaches turn first s → lines[pos s]? = some line →
    ∃ rest, Line.slice? lines (pos s) lines.length = some rest ∧ rest[0]? = some line
  /-- The block of a function has a header and an end, and its body is what stands between them. -/
  function : ∀ s line block next, Turn.Reaches turn first s → lines[pos s]? = some line →
    line.kind.startsFunction = true → Delimiter.brace.blockAt? lines (pos s) = some (.ok (block, next)) →
    2 ≤ block.length ∧
      ∃ body, Line.slice? block 1 (block.length - 1) = some body ∧ Encloses block line body

theorem StaysInRange.of_progresses {turn : σ → Turn σ ρ} {pos : σ → Nat} {lines : List Line} {first : σ}
    {result : ρ} {Invariant : σ → Prop} (hpos : ∀ s, Invariant s → pos s ≤ lines.length)
    (hprogress : Turn.Progresses turn Invariant (fun s => lines.length - pos s) result)
    (hfirst : Invariant first) : StaysInRange turn pos lines first result := by
  have hreached : ∀ s, Turn.Reaches turn first s → Invariant s :=
    fun s hs => hprogress.invariant hfirst hs
  refine ⟨fun s hs => hpos s (hreached s hs), fun s hs => hprogress.ne_trap (hreached s hs), ?_,
    hprogress.ends hfirst, ?_, ?_⟩
  · intro s t hs hnext
    have hlt := hprogress.measure_lt (hreached s hs) hnext
    omega
  · intro s line hs hline
    obtain ⟨hlt, hdrop⟩ := Line.drop_eq_cons hline
    refine ⟨_, Line.slice?_drop (Nat.le_of_lt hlt), ?_⟩
    rw [hdrop]
    rfl
  · intro s line block next hs hline hheader hblock
    cases hb : Delimiter.brace.block? (line :: lines.drop (pos s + 1)) with
    | none =>
      rw [Delimiter.blockAt?_of_none hline hb] at hblock
      cases hblock
    | some parts =>
      obtain ⟨taken, rest⟩ := parts
      rw [Delimiter.blockAt?_of_some hline hb] at hblock
      cases hblock
      obtain ⟨body, hencloses⟩ := exists_encloses hheader hb
      exact ⟨hencloses.two_le, body, hencloses.slice?_eq, hencloses⟩

end

/-- No position and no slice is out of range, whatever is read. -/
theorem readProgram_stays_in_range (source previous : Text) :
    StaysInRange (Reader.Cursor.turn (.ofText previous) (Line.ofSource source)) Reader.Cursor.pos
        (Line.ofSource source) ⟨0, [], []⟩ (readProgram source previous) ∧
      ∀ name, StaysInRange (PreviousOutput.searchTurn name (Line.ofSource previous)) id
        (Line.ofSource previous) 0 ((PreviousOutput.ofText previous).function? name) := by
  constructor
  · exact .of_progresses (fun c hc => hc.pos_le) (Reader.Cursor.progresses _ _ _) ⟨Nat.zero_le _, rfl⟩
  · intro name
    exact .of_progresses (fun pos hpos => hpos.1) (PreviousOutput.searchTurn_progresses name _ _)
      ⟨Nat.zero_le _, rfl⟩

end StubCompiler
