import StubCompiler.Proofs.Declarations
import StubCompiler.Proofs.Signature

/-!
# The outcome of reading

What a source leads to is fixed by its top-level blocks.  The scan of the lines finds them one after
the other; it goes on behind each block and never looks inside.  A block that no line closes is the
only error then, whatever was wrong before it.  Otherwise every malformed block has one error, and a
source without malformed blocks has one construct for each block.  The scan and the ways in which a
block can be malformed are stated here on the text, without the functions that read it.
-/

namespace StubCompiler

/-! ### Headers -/

namespace Header

/-- The header reads `before ++ "function " ++ name ++ "(" ++ inner`, where the keyword is the first one
in the line and the parenthesis the first one after the keyword. -/
structure Opens (header before name inner : Text) : Prop where
  eq : header = before ++ keyword ++ (name ++ '(' :: inner)
  first : ∀ u v, header = u ++ keyword ++ v → before.length ≤ u.length
  not_mem : '(' ∉ name

/-- Between the keyword and the parenthesis stands `name`, which is not blank. -/
def Names (header name : Text) : Prop :=
  ∃ before between inner, Opens header before between inner ∧ between.trim = name ∧ name ≠ []

/-- The parenthesis behind the name is closed on the same line. -/
def ClosesArguments (header : Text) : Prop :=
  ∃ before name list after, Opens header before name (list ++ ')' :: after) ∧ list.IsBalanced

theorem opens_iff_cut {header before name inner : Text} :
    Opens header before name inner ↔ ∃ rest,
      Text.cut? keyword header = some (before, rest) ∧ Text.cutAt? '(' rest = some (name, inner) := by
  constructor
  · rintro ⟨heq, hfirst, hmem⟩
    exact ⟨_, Text.cut?_eq_some_iff.2 ⟨heq, hfirst⟩, Text.cutAt?_append_cons hmem inner⟩
  · rintro ⟨rest, hkey, hopen⟩
    obtain ⟨heq, hfirst⟩ := Text.cut?_eq_some_iff.1 hkey
    obtain ⟨rfl, hmem⟩ := Text.cutAt?_eq_some_iff.1 hopen
    exact ⟨heq, hfirst, hmem⟩

theorem name?_eq_some_iff {header name : Text} : name? header = some name ↔ Names header name := by
  simp only [name?, Names, opens_iff_cut, Option.bind_eq_bind, Option.bind_eq_some_iff, Prod.exists]
  constructor
  · rintro ⟨before, rest, hkey, between, inner, hopen, hname⟩
    split at hname
    · cases hname
    · rename_i hne
      obtain rfl := Option.some.inj hname
      exact ⟨before, between, inner, ⟨rest, hkey, hopen⟩, rfl, hne⟩
  · rintro ⟨before, between, inner, ⟨rest, hkey, hopen⟩, rfl, hne⟩
    exact ⟨before, rest, hkey, between, inner, hopen, if_neg hne⟩

theorem argumentList?_eq_some_iff {header : Text} {a : ArgumentList} :
    argumentList? header = some a ↔ ∃ before name,
      Opens header before name (a.list ++ ')' :: a.after) ∧ a.list.IsBalanced ∧
        a.before = before ++ keyword ++ name := by
  -- The keyword holds no parenthesis, so the first one behind its start is the first one behind it.
  have hkeyword : '(' ∉ keyword := by decide
  simp only [argumentList?, opens_iff_cut, Text.cutAt?_append_left hkeyword, Option.bind_eq_bind,
    Option.bind_eq_some_iff, Option.map_eq_some_iff, Prod.exists, Prod.mk.injEq,
    cutAtClose?_eq_some_iff]
  constructor
  · rintro ⟨before, rest, hkey, _, _, ⟨name, inner, hopen, rfl, rfl⟩, list, after, ⟨rfl, hlist⟩, ha⟩
    obtain rfl := Option.some.inj ha
    exact ⟨before, name, ⟨rest, hkey, hopen⟩, hlist, (List.append_assoc before keyword name).symm⟩
  · rintro ⟨before, name, ⟨rest, hkey, hopen⟩, hlist, hbefore⟩
    refine ⟨before, rest, hkey, _, _, ⟨name, _, hopen, rfl, rfl⟩, a.list, a.after, ⟨rfl, hlist⟩, ?_⟩
    rw [← List.append_assoc, ← hbefore]
    rfl

theorem exists_argumentList?_iff {header : Text} :
    (∃ a, argumentList? header = some a) ↔ ClosesArguments header := by
  simp only [argumentList?_eq_some_iff]
  constructor
  · rintro ⟨a, before, name, hopens, hlist, -⟩
    exact ⟨before, name, a.list, a.after, hopens, hlist⟩
  · rintro ⟨before, name, list, after, hopens, hlist⟩
    exact ⟨⟨before ++ keyword ++ name, list, after⟩, before, name, hopens, hlist, rfl⟩

end Header

/-! ### The scan -/

/-- The scan of `lines`, from the first one on, finds `blocks`.  It ends behind the last line, or at the
first line that opens a block which no line closes; `stop` is the complaint about that line. -/
inductive Scan : List Line → List SourceBlock → Option Fault → Prop where
  | done : Scan [] [] none
  /-- A line that opens nothing is passed over. -/
  | skip {line : Line} {lines : List Line} {blocks : List SourceBlock} {stop : Option Fault}
      (extent : line.kind.extent = .none) (next : Scan lines blocks stop) :
      Scan (line :: lines) blocks stop
  | line {line : Line} {lines : List Line} {blocks : List SourceBlock} {stop : Option Fault}
      (extent : line.kind.extent = .line) (next : Scan lines blocks stop) :
      Scan (line :: lines) (⟨line, [line]⟩ :: blocks) stop
  /-- A block ends with the first line that closes it, and the scan goes on behind it. -/
  | block {line : Line} {lines block rest : List Line} {blocks : List SourceBlock}
      {stop : Option Fault} {d : Delimiter} {kind : BlockKind}
      (extent : line.kind.extent = .block d kind) (eq : line :: lines = block ++ rest)
      (closed : d.Closed block) (next : Scan rest blocks stop) :
      Scan (line :: lines) (⟨line, block⟩ :: blocks) stop
  | unterminated {line : Line} {lines : List Line} {d : Delimiter} {kind : BlockKind}
      (extent : line.kind.extent = .block d kind) (unclosed : ∀ l ∈ line :: lines, d.closes l = false) :
      Scan (line :: lines) [] (some ⟨.unterminated kind, line⟩)

theorem Delimiter.block?_eq_none_iff {d : Delimiter} {lines : List Line} :
    d.block? lines = none ↔ ∀ l ∈ lines, d.closes l = false := by
  induction lines with
  | nil => simp [block?]
  | cons line lines ih =>
    rw [block?]
    cases hc : d.closes line with
    | true => simp [hc]
    | false => simp [hc, ih]

namespace Scan

/-- Every source has a scan. -/
theorem exists_scan (lines : List Line) : ∃ blocks stop, Scan lines blocks stop := by
  induction lines using SourceBlock.ofLines.induct with
  | case1 => exact ⟨[], none, .done⟩
  | case2 line lines h ih =>
    obtain ⟨blocks, stop, hscan⟩ := ih
    exact ⟨blocks, stop, .skip h hscan⟩
  | case3 line lines h ih =>
    obtain ⟨blocks, stop, hscan⟩ := ih
    exact ⟨⟨line, [line]⟩ :: blocks, stop, .line h hscan⟩
  | case4 line lines d kind h hb =>
    exact ⟨[], some ⟨.unterminated kind, line⟩, .unterminated h (Delimiter.block?_eq_none_iff.1 hb)⟩
  | case5 line lines d kind h block rest hb ih =>
    obtain ⟨blocks, stop, hscan⟩ := ih
    exact ⟨⟨line, block⟩ :: blocks, stop,
      .block h (Delimiter.eq_of_block? hb) (Delimiter.closed_of_block? hb) hscan⟩

theorem unique {lines : List Line} {blocks blocks' : List SourceBlock} {stop stop' : Option Fault}
    (h : Scan lines blocks stop) (h' : Scan lines blocks' stop') : blocks = blocks' ∧ stop = stop' := by
  -- The extent of the line fixes the rule, and where a block ends is fixed by the lines.
  induction h generalizing blocks' with
  | done =>
    cases h'
    exact ⟨rfl, rfl⟩
  | skip extent _ ih =>
    cases h' with
    | skip _ next => exact ih next
    | _ => simp_all
  | line extent _ ih =>
    cases h' with
    | line _ next =>
      obtain ⟨rfl, rfl⟩ := ih next
      exact ⟨rfl, rfl⟩
    | _ => simp_all
  | @block line lines block rest blocks stop d kind extent eq closed _ ih =>
    have hb : d.block? (line :: lines) = some (block, rest) := by
      rw [eq]
      exact Delimiter.block?_append closed rest
    cases h' with
    | block extent' eq' closed' next =>
      rw [extent] at extent'
      cases extent'
      rw [eq', Delimiter.block?_append closed'] at hb
      cases hb
      obtain ⟨rfl, rfl⟩ := ih next
      exact ⟨rfl, rfl⟩
    | unterminated extent' unclosed =>
      rw [extent] at extent'
      cases extent'
      rw [Delimiter.block?_eq_none_iff.2 unclosed] at hb
      cases hb
    | _ => simp_all
  | unterminated extent unclosed =>
    have hb := Delimiter.block?_eq_none_iff.2 unclosed
    cases h' with
    | block extent' eq closed _ =>
      rw [extent] at extent'
      cases extent'
      rw [eq, Delimiter.block?_append closed] at hb
      cases hb
    | unterminated extent' _ =>
      rw [extent] at extent'
      cases extent'
      exact ⟨rfl, rfl⟩
    | _ => simp_all

/-- The reader finds the blocks of the scan, and stops where it stops. -/
theorem ofLines_eq {lines : List Line} {blocks : List SourceBlock} {stop : Option Fault}
    (h : Scan lines blocks stop) :
    SourceBlock.ofLines lines = stop.elim (.ok blocks) .error := by
  induction h with
  | done => exact SourceBlock.ofLines_nil
  | skip extent _ ih => rw [SourceBlock.ofLines_skip extent, ih]
  | @line line lines blocks stop extent _ ih =>
    rw [SourceBlock.ofLines_line extent, ih]
    cases stop <;> rfl
  | @block line lines block rest blocks stop d kind extent eq closed _ ih =>
    have hb : d.block? (line :: lines) = some (block, rest) := by
      rw [eq]
      exact Delimiter.block?_append closed rest
    rw [SourceBlock.ofLines_block extent hb, ih]
    cases stop <;> rfl
  | unterminated extent unclosed =>
    exact SourceBlock.ofLines_unterminated extent (Delimiter.block?_eq_none_iff.2 unclosed)

end Scan

/-! ### Malformed blocks -/

namespace SourceBlock

/-- The text of a union: its lines, trimmed and joined by spaces, behind the word that announces it. -/
def unionText (b : SourceBlock) : Text :=
  let text : Text := List.intercalate " " (b.lines.map fun line => line.text.trim)
  (Reader.unionKeyword.isPrefixOf? text).getD text

/-- What can be wrong with a block.  The name of a function comes before its arguments, and both come
before its body in the last output. -/
inductive HasError (previous : PreviousOutput) (b : SourceBlock) : SyntaxError → Prop where
  | unnamed (kind : b.header.kind.startsFunction = true)
      (name : ∀ name, ¬ Header.Names b.header.text name) :
      HasError previous b (.inSource ⟨.missingFunctionName, b.header⟩)
  | unclosed {name : Text} (kind : b.header.kind.startsFunction = true)
      (names : Header.Names b.header.text name) (closed : ¬ Header.ClosesArguments b.header.text) :
      HasError previous b (.inSource ⟨.missingArguments, b.header⟩)
  | pinning {name : Text} {cause : Fault} (kind : b.header.kind = .pinnedFunction)
      (names : Header.Names b.header.text name) (closed : Header.ClosesArguments b.header.text)
      (lookup : previous.function? name = .error cause) :
      HasError previous b (.pinning name b.header cause)
  | unnamedUnion (kind : b.header.kind = .unionType)
      (name : ∀ name tags, b.unionText = name ++ '=' :: tags → '=' ∉ name → name.isBlankText = true) :
      HasError previous b (.inSource ⟨.missingUnionName, b.header⟩)

def IsMalformed (previous : PreviousOutput) (b : SourceBlock) : Prop :=
  ∃ error, b.HasError previous error

end SourceBlock

theorem Header.name?_eq_none_iff {header : Text} : name? header = none ↔ ∀ name, ¬ Names header name := by
  simp only [← name?_eq_some_iff]
  exact Option.eq_none_iff_forall_ne_some

theorem Header.argumentList?_eq_none_iff {header : Text} :
    argumentList? header = none ↔ ¬ ClosesArguments header := by
  rw [← exists_argumentList?_iff, Option.eq_none_iff_forall_ne_some, not_exists]

theorem Header.stub_eq_error_iff {header : Line} {body : List Line} {fault : Fault} :
    stub header body = .error fault ↔
      (∀ name, ¬ Names header.text name) ∧ fault = ⟨.missingFunctionName, header⟩ ∨
        (∃ name, Names header.text name) ∧ ¬ ClosesArguments header.text ∧
          fault = ⟨.missingArguments, header⟩ := by
  rw [stub]
  cases hname : name? header.text with
  | none =>
    have hnone := name?_eq_none_iff.1 hname
    simp [hnone, eq_comm]
  | some name =>
    have hnames := name?_eq_some_iff.1 hname
    have hsome : ∃ name, Names header.text name := ⟨name, hnames⟩
    have hnot : ¬ ∀ name, ¬ Names header.text name := fun h => h name hnames
    cases hlist : argumentList? header.text with
    | none =>
      have hopen := argumentList?_eq_none_iff.1 hlist
      simp [hnot, hsome, hopen, eq_comm]
    | some a =>
      have hclosed : ClosesArguments header.text := exists_argumentList?_iff.1 ⟨a, hlist⟩
      simp [hnot, hclosed]

theorem Header.exists_stub_iff {header : Line} {body : List Line} {name : Text} :
    (∃ s, stub header body = .ok s ∧ s.name = name) ↔
      Names header.text name ∧ ClosesArguments header.text := by
  rw [← name?_eq_some_iff, ← exists_argumentList?_iff, stub]
  cases name? header.text with
  | none => simp
  | some found =>
    cases argumentList? header.text with
    | none => simp
    | some a => simp

theorem Reader.function_eq_error_iff {previous : PreviousOutput} {isPinned : Bool} {header : Line}
    {block : List Line} {error : SyntaxError} :
    function previous isPinned header block = .error error ↔
      (∃ fault, Header.stub header block.tail.dropLast = .error fault ∧ error = .inSource fault) ∨
        isPinned = true ∧ ∃ stub cause, Header.stub header block.tail.dropLast = .ok stub ∧
          previous.function? stub.name = .error cause ∧ error = .pinning stub.name header cause := by
  rw [function]
  cases hstub : Header.stub header block.tail.dropLast with
  | error fault => simp [eq_comm]
  | ok stub =>
    cases isPinned with
    | false => simp
    | true =>
      cases hfound : previous.function? stub.name with
      | error cause => simp [PreviousOutput.resolve, hfound, eq_comm]
      | ok body => cases body <;> simp [PreviousOutput.resolve, hfound]

theorem Reader.union_eq (b : SourceBlock) :
    union b.header b.lines =
      match Text.cutAt? '=' b.unionText with
      | none => .error (.inSource ⟨.missingUnionName, b.header⟩)
      | some (name, rest) =>
        if Text.trim name = [] then .error (.inSource ⟨.missingUnionName, b.header⟩)
        else .ok (.union (Text.trim name) (tags rest)) := rfl

theorem Reader.union_eq_error_iff {b : SourceBlock} {error : SyntaxError} :
    union b.header b.lines = .error error ↔
      (∀ name tags, b.unionText = name ++ '=' :: tags → '=' ∉ name → name.isBlankText = true) ∧
        error = .inSource ⟨.missingUnionName, b.header⟩ := by
  have hcut : ∀ name tags, b.unionText = name ++ '=' :: tags ∧ '=' ∉ name ↔
      Text.cutAt? '=' b.unionText = some (name, tags) := fun name tags => Text.cutAt?_eq_some_iff.symm
  rw [union_eq]
  cases hfound : Text.cutAt? '=' b.unionText with
  | none =>
    have hall : ∀ name tags, b.unionText = name ++ '=' :: tags → '=' ∉ name →
        name.isBlankText = true := by
      intro name tags heq hmem
      rw [(hcut name tags).1 ⟨heq, hmem⟩] at hfound
      cases hfound
    constructor
    · intro h
      cases h
      exact ⟨hall, rfl⟩
    · rintro ⟨-, rfl⟩
      rfl
  | some parts =>
    obtain ⟨name, tags⟩ := parts
    obtain ⟨heq, hmem⟩ := (hcut name tags).2 hfound
    have hall : (∀ other tags, b.unionText = other ++ '=' :: tags → '=' ∉ other →
        other.isBlankText = true) ↔ name.trim = [] := by
      rw [Text.trim_eq_nil_iff]
      constructor
      · exact fun h => h name tags heq hmem
      · intro h other rest heq' hmem'
        have hsame := (hcut other rest).1 ⟨heq', hmem'⟩
        rw [hfound] at hsame
        cases hsame
        exact h
    rw [hall]
    dsimp only
    split
    · rename_i hblank
      simp [hblank, eq_comm]
    · rename_i hname
      simp [hname]

namespace SourceBlock

theorem hasError_of_construct {previous : PreviousOutput} {b : SourceBlock} {error : SyntaxError}
    (h : b.construct previous = .error error) : b.HasError previous error := by
  have hfunction : ∀ isPinned, b.header.kind = (if isPinned then .pinnedFunction else .function) →
      Reader.function previous isPinned b.header b.lines = .error error → b.HasError previous error := by
    intro isPinned hkind herror
    have hstarts : b.header.kind.startsFunction = true := by
      rw [hkind]
      cases isPinned <;> rfl
    rcases Reader.function_eq_error_iff.1 herror with
      ⟨fault, hfault, rfl⟩ | ⟨rfl, stub, cause, hstub, hcause, rfl⟩
    · rcases Header.stub_eq_error_iff.1 hfault with ⟨hname, rfl⟩ | ⟨⟨name, hname⟩, hopen, rfl⟩
      · exact .unnamed hstarts hname
      · exact .unclosed hstarts hname hopen
    · obtain ⟨hname, hclosed⟩ := Header.exists_stub_iff.1 ⟨stub, hstub, rfl⟩
      exact .pinning hkind hname hclosed hcause
  rw [construct] at h
  cases hkind : b.header.kind with
  | pinnedFunction =>
    rw [hkind] at h
    exact hfunction true hkind h
  | function =>
    rw [hkind] at h
    exact hfunction false hkind h
  | unionType =>
    rw [hkind] at h
    obtain ⟨hname, rfl⟩ := Reader.union_eq_error_iff.1 h
    exact .unnamedUnion hkind hname
  | _ =>
    rw [hkind] at h
    cases h

theorem HasError.construct_eq {previous : PreviousOutput} {b : SourceBlock} {error : SyntaxError}
    (h : b.HasError previous error) : b.construct previous = .error error := by
  have hfault : ∀ fault, b.header.kind.startsFunction = true →
      Header.stub b.header b.lines.tail.dropLast = .error fault →
      b.construct previous = .error (.inSource fault) := by
    intro fault hkind hstub
    have herror : ∀ isPinned,
        Reader.function previous isPinned b.header b.lines = .error (.inSource fault) :=
      fun isPinned => Reader.function_eq_error_iff.2 (Or.inl ⟨fault, hstub, rfl⟩)
    rw [construct]
    cases hk : b.header.kind with
    | pinnedFunction => exact herror true
    | function => exact herror false
    | _ =>
      rw [hk] at hkind
      cases hkind
  cases h with
  | unnamed kind name => exact hfault _ kind (Header.stub_eq_error_iff.2 (Or.inl ⟨name, rfl⟩))
  | unclosed kind names closed =>
    exact hfault _ kind (Header.stub_eq_error_iff.2 (Or.inr ⟨⟨_, names⟩, closed, rfl⟩))
  | pinning kind names closed lookup =>
    obtain ⟨stub, hstub, rfl⟩ := Header.exists_stub_iff.2 ⟨names, closed⟩
    rw [construct, kind]
    exact Reader.function_eq_error_iff.2 (Or.inr ⟨rfl, stub, _, hstub, lookup, rfl⟩)
  | unnamedUnion kind name =>
    rw [construct, kind]
    exact Reader.union_eq_error_iff.2 ⟨name, rfl⟩

/-- A block stands for an error exactly when it has that error. -/
theorem construct_eq_error_iff {previous : PreviousOutput} {b : SourceBlock} {error : SyntaxError} :
    b.construct previous = .error error ↔ b.HasError previous error :=
  ⟨hasError_of_construct, HasError.construct_eq⟩

instance (previous : PreviousOutput) (b : SourceBlock) : Decidable (b.IsMalformed previous) :=
  match h : b.construct previous with
  | .error error => isTrue ⟨error, construct_eq_error_iff.1 h⟩
  | .ok c => isFalse fun ⟨error, herror⟩ => by
    rw [herror.construct_eq] at h
    cases h

theorem exists_construct_iff {previous : PreviousOutput} {b : SourceBlock} :
    (∃ c, b.construct previous = .ok c) ↔ ¬ b.IsMalformed previous := by
  simp only [IsMalformed, ← construct_eq_error_iff]
  cases b.construct previous <;> simp

end SourceBlock

/-! ### What reading leads to -/

namespace Reader

def errors (results : List (Except SyntaxError Construct)) : SyntaxErrors :=
  results.filterMap fun
    | .ok _ => none
    | .error error => some error

def constructs (results : List (Except SyntaxError Construct)) : Program :=
  results.filterMap fun
    | .ok construct => some construct
    | .error _ => none

@[simp] theorem errors_nil : errors [] = [] := rfl

@[simp] theorem errors_ok_cons (c : Construct) (results : List (Except SyntaxError Construct)) :
    errors (.ok c :: results) = errors results := rfl

@[simp] theorem errors_error_cons (error : SyntaxError)
    (results : List (Except SyntaxError Construct)) :
    errors (.error error :: results) = error :: errors results := rfl

@[simp] theorem constructs_nil : constructs [] = [] := rfl

@[simp] theorem constructs_ok_cons (c : Construct) (results : List (Except SyntaxError Construct)) :
    constructs (.ok c :: results) = c :: constructs results := rfl

@[simp] theorem constructs_error_cons (error : SyntaxError)
    (results : List (Except SyntaxError Construct)) :
    constructs (.error error :: results) = constructs results := rfl

theorem collect_eq (results : List (Except SyntaxError Construct)) :
    collect [] [] results =
      if errors results = [] then .ok (constructs results) else .error (errors results) := rfl

theorem errors_append (xs ys : List (Except SyntaxError Construct)) :
    errors (xs ++ ys) = errors xs ++ errors ys := List.filterMap_append

theorem constructs_append (xs ys : List (Except SyntaxError Construct)) :
    constructs (xs ++ ys) = constructs xs ++ constructs ys := List.filterMap_append

def errorsOf : Except SyntaxErrors Program → SyntaxErrors
  | .ok _ => []
  | .error errors => errors

theorem errorsOf_collect (results : List (Except SyntaxError Construct)) :
    errorsOf (collect [] [] results) = errors results := by
  rw [collect_eq]
  split
  · rename_i h
    rw [h]
    rfl
  · rfl

theorem collect_eq_ok {results : List (Except SyntaxError Construct)} {program : Program}
    (h : collect [] [] results = .ok program) : errors results = [] ∧ constructs results = program := by
  rw [collect_eq] at h
  split at h
  · rename_i hnil
    exact ⟨hnil, Except.ok.inj h⟩
  · cases h

theorem readProgram_eq {source : Text} {blocks : List SourceBlock} {stop : Option Fault}
    (h : Scan (Line.ofSource source) blocks stop) (previous : Text) :
    readProgram source previous =
      match stop with
      | some fault => .error [.inSource fault]
      | none => collect [] [] (blocks.map (SourceBlock.construct (.ofText previous))) := by
  rw [readProgram, read_eq, h.ofLines_eq]
  cases stop <;> rfl

/-- The result is the failure on a block that no line closes. -/
def IsUnterminated (result : Except SyntaxErrors Program) (kind : BlockKind) (line : Line) : Prop :=
  result = .error [.inSource ⟨.unterminated kind, line⟩]

theorem forall₂_errors (previous : PreviousOutput) (blocks : List SourceBlock) :
    List.Forall₂ (SourceBlock.HasError previous) (blocks.filter (SourceBlock.IsMalformed previous))
      (errors (blocks.map (SourceBlock.construct previous))) := by
  induction blocks with
  | nil => exact .nil
  | cons b blocks ih =>
    cases hb : b.construct previous with
    | ok c =>
      have hfine : ¬ b.IsMalformed previous := SourceBlock.exists_construct_iff.1 ⟨c, hb⟩
      simpa [hb, hfine] using ih
    | error error =>
      have herror := SourceBlock.construct_eq_error_iff.1 hb
      have hbad : b.IsMalformed previous := ⟨error, herror⟩
      simpa [hb, hbad] using ⟨herror, ih⟩

theorem forall₂_constructs {previous : PreviousOutput} {blocks : List SourceBlock}
    (h : ∀ b ∈ blocks, ¬ b.IsMalformed previous) :
    List.Forall₂ (fun b c => b.construct previous = .ok c) blocks
      (constructs (blocks.map (SourceBlock.construct previous))) := by
  induction blocks with
  | nil => exact .nil
  | cons b blocks ih =>
    obtain ⟨c, hc⟩ := SourceBlock.exists_construct_iff.2 (h b (by simp))
    have hrest := ih fun other hother => h other (List.mem_cons_of_mem b hother)
    simpa [hc] using hrest

end Reader

/-- No malformed block counts as a block without an end, also if the search of the last output met
one. -/
theorem SourceBlock.HasError.isFatal_eq {previous : PreviousOutput} {b : SourceBlock} {error : SyntaxError}
    (h : b.HasError previous error) : error.isFatal = false := by
  cases h <;> rfl

namespace Scan

theorem exists_unterminated {lines : List Line} {blocks : List SourceBlock} {fault : Fault}
    (h : Scan lines blocks (some fault)) : ∃ kind line, fault = ⟨.unterminated kind, line⟩ := by
  generalize hstop : some fault = stop at h
  induction h with
  | done => cases hstop
  | skip _ _ ih => exact ih hstop
  | line _ _ ih => exact ih hstop
  | block _ _ _ _ ih => exact ih hstop
  | @unterminated line _ _ kind _ _ => exact ⟨kind, line, Option.some.inj hstop⟩

theorem isUnterminated_iff {source : Text} {blocks : List SourceBlock} {stop : Option Fault}
    (h : Scan (Line.ofSource source) blocks stop) {previous : Text} {kind : BlockKind} {line : Line} :
    Reader.IsUnterminated (readProgram source previous) kind line ↔
      stop = some ⟨.unterminated kind, line⟩ := by
  rw [Reader.IsUnterminated, Reader.readProgram_eq h]
  cases stop with
  | some fault => simp
  | none =>
    simp only [reduceCtorEq, iff_false]
    rw [Reader.collect_eq]
    split
    · exact nofun
    · intro herror
      have hsingle := Reader.forall₂_errors (.ofText previous) blocks
      rw [Except.error.inj herror] at hsingle
      obtain ⟨b, -, hb, -⟩ := List.forall₂_cons_right_iff.1 hsingle
      exact Bool.noConfusion hb.isFatal_eq

/-- The scan goes to the end exactly when reading does not fail on a block without an end. -/
theorem stop_eq_none_iff {source : Text} {blocks : List SourceBlock} {stop : Option Fault}
    (h : Scan (Line.ofSource source) blocks stop) (previous : Text) :
    stop = none ↔ ∀ kind line, ¬ Reader.IsUnterminated (readProgram source previous) kind line := by
  simp only [h.isUnterminated_iff]
  constructor
  · rintro rfl kind line
    exact nofun
  · intro hne
    cases stop with
    | none => rfl
    | some fault =>
      obtain ⟨kind, line, rfl⟩ := h.exists_unterminated
      exact absurd rfl (hne kind line)

end Scan

/-- The exact outcome of reading.  There is one scan of the lines.  If it stops at a block that no line
closes, that is the only error; otherwise every malformed block has its one error, in the order of the
source; and if no block is malformed, every block has its one construct. -/
theorem readProgram_outcome (source previous : Text) :
    ∃ blocks stop,
      (∀ bs s, Scan (Line.ofSource source) bs s ↔ bs = blocks ∧ s = stop) ∧
      (∀ fault, stop = some fault → readProgram source previous = .error [.inSource fault]) ∧
      (stop = none → (∃ b ∈ blocks, b.IsMalformed (.ofText previous)) →
        ∃ errors, readProgram source previous = .error errors ∧
          List.Forall₂ (SourceBlock.HasError (.ofText previous))
            (blocks.filter (SourceBlock.IsMalformed (.ofText previous))) errors) ∧
      (stop = none → (∀ b ∈ blocks, ¬ b.IsMalformed (.ofText previous)) →
        ∃ program, readProgram source previous = .ok program ∧
          List.Forall₂ (fun b c => b.construct (.ofText previous) = .ok c) blocks program) := by
  obtain ⟨blocks, stop, hscan⟩ := Scan.exists_scan (Line.ofSource source)
  have hread := Reader.readProgram_eq hscan previous
  let results := blocks.map (SourceBlock.construct (.ofText previous))
  have herrors : List.Forall₂ (SourceBlock.HasError (.ofText previous))
      (blocks.filter (SourceBlock.IsMalformed (.ofText previous))) (Reader.errors results) :=
    Reader.forall₂_errors (.ofText previous) blocks
  refine ⟨blocks, stop, ?_, ?_, ?_, ?_⟩
  · intro bs s
    constructor
    · exact fun h => h.unique hscan
    · rintro ⟨rfl, rfl⟩
      exact hscan
  · rintro fault rfl
    exact hread
  · rintro rfl ⟨b, hb, hbad⟩
    refine ⟨Reader.errors results, ?_, herrors⟩
    have hmem : b ∈ blocks.filter (SourceBlock.IsMalformed (.ofText previous)) := by
      simp [hb, hbad]
    have hne : Reader.errors results ≠ [] := by
      intro hnil
      rw [hnil] at herrors
      rw [List.forall₂_nil_right_iff.1 herrors] at hmem
      cases hmem
    rw [hread]
    exact if_neg hne
  · rintro rfl hfine
    refine ⟨Reader.constructs results, ?_, Reader.forall₂_constructs hfine⟩
    have hnone : blocks.filter (SourceBlock.IsMalformed (.ofText previous)) = [] := by
      simpa using hfine
    rw [hnone] at herrors
    rw [hread]
    exact if_pos (List.forall₂_nil_left_iff.1 herrors)

end StubCompiler
