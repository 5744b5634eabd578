import StubCompiler.Compilation
import StubCompiler.Proofs.Causality
import StubCompiler.Proofs.Declarations

/-!
# What the report says

A run counts as it goes: every construct adds to the report what is to be said of it.  What is counted
is a matter of the constructs and of their blocks alone (`Report.Counts`), so the report of a run, and
with it what the user is told, can be told from the program and the output.
-/

namespace StubCompiler

/-! ### What is counted -/

namespace Construct

def isRequested : Construct → Bool
  | .function _ => true
  | _ => false

def isPinned : Construct → Bool
  | .pinned _ _ => true
  | _ => false

/-- The construct is a type, a union or an export list. -/
def isStructural : Construct → Bool
  | .typeDefinition _ | .union _ _ | .exportList _ => true
  | .function _ | .pinned _ _ => false

def isEntryPoint (c : Construct) : Bool := c.functionName? == some entryPoint

/-- The name of a function that was asked for and got an empty block. -/
def unanswered? : Construct × Text → Option Text
  | (.function stub, []) => some stub.name
  | _ => none

/-- The text can be the block of the construct.  What the service sends for a function has something
to see in it, or its block is empty. -/
def MayEmit : Construct → Text → Prop
  | .function _, t => t = [] ∨ ∃ c ∈ t, Text.isBlank c = false
  | .pinned _ body, t => t = body
  | .typeDefinition body, t => t = body
  | .union name tags, t => t = printUnion name tags
  | .exportList names, t => t = printExports names

theorem mayEmit_of_block? {c : Construct} {t : Text} (h : c.block? = some t) : c.MayEmit t := by
  cases c with
  | function stub => simp [block?] at h
  | _ => exact (Option.some.inj h).symm

end Construct

def Program.unanswered (program : Program) (texts : List Text) : List Text :=
  (program.zip texts).filterMap Construct.unanswered?

/-- The report counts the constructs of `program`, whose blocks are `texts`. -/
structure Report.Counts (r : Report) (program : Program) (texts : List Text) : Prop where
  length_eq : texts.length = program.length
  requested : r.requested = program.countP Construct.isRequested
  pinned : r.pinned = program.countP Construct.isPinned
  structural : r.structural = program.countP Construct.isStructural
  emptyResponses : r.emptyResponses = program.unanswered texts
  hasEntryPoint : r.hasEntryPoint = program.any Construct.isEntryPoint

theorem Report.counts_nil : Report.Counts {} [] [] := ⟨rfl, rfl, rfl, rfl, rfl, rfl⟩

/-- One more construct is counted once. -/
theorem Report.Counts.add {r : Report} {program : Program} {texts : List Text}
    (h : r.Counts program texts) (c : Construct) (block : Text) :
    (r.add c block).Counts (program ++ [c]) (texts ++ [block]) := by
  have hlength : (texts ++ [block]).length = (program ++ [c]).length := by
    simp [h.length_eq]
  have hunanswered : (program ++ [c]).unanswered (texts ++ [block]) =
      program.unanswered texts ++ [(c, block)].filterMap Construct.unanswered? := by
    rw [Program.unanswered, List.zip_append h.length_eq.symm, List.filterMap_append,
      Program.unanswered, List.zip_cons_cons, List.zip_nil_left]
  have hentry : (program ++ [c]).any Construct.isEntryPoint =
      (r.hasEntryPoint || c.functionName? == some entryPoint) := by
    rw [List.any_append, h.hasEntryPoint]
    simp [Construct.isEntryPoint]
  have hrequested : (program ++ [c]).countP Construct.isRequested =
      r.requested + if c.isRequested then 1 else 0 := by
    rw [List.countP_append, List.countP_singleton, h.requested]
  have hpinned : (program ++ [c]).countP Construct.isPinned =
      r.pinned + if c.isPinned then 1 else 0 := by
    rw [List.countP_append, List.countP_singleton, h.pinned]
  have hstructural : (program ++ [c]).countP Construct.isStructural =
      r.structural + if c.isStructural then 1 else 0 := by
    rw [List.countP_append, List.countP_singleton, h.structural]
  refine ⟨hlength, ?_, ?_, ?_, ?_, ?_⟩
  · rw [hrequested]
    cases c <;> rfl
  · rw [hpinned]
    cases c <;> rfl
  · rw [hstructural]
    cases c <;> rfl
  · rw [hunanswered, ← h.emptyResponses]
    cases c with
    | function stub => cases block <;> rfl
    | _ => exact (List.append_nil _).symm
  · rw [hentry]
    cases c <;> rfl

/-- Every construct is counted in one of three ways. -/
theorem Program.length_eq_countP (program : Program) :
    program.countP Construct.isRequested + program.countP Construct.isPinned +
      program.countP Construct.isStructural = program.length := by
  induction program with
  | nil => rfl
  | cons c program ih =>
    rw [List.length_cons, List.countP_cons, List.countP_cons, List.countP_cons]
    cases c <;> simp [Construct.isRequested, Construct.isPinned, Construct.isStructural] <;> omega

theorem Program.length_functionsFrom (n : Nat) (program : Program) :
    (program.functionsFrom n).length = program.countP Construct.isRequested := by
  induction program generalizing n with
  | nil => rfl
  | cons c program ih =>
    rw [List.countP_cons]
    cases c <;> simp [functionsFrom, Construct.isRequested, ih]

/-! ### A whole run -/

/-- The run lemma: what has been counted before is counted on. -/
theorem run_generateFrom_counts {program before : Program} {done g : Generated} {s : Script}
    (h : done.report.Counts before done.blocks)
    (hg : ((generateFrom Script.complete done program).run s).1 = .ok g) :
    g.report.Counts (before ++ program) g.blocks := by
  induction program generalizing before done s with
  | nil =>
    obtain rfl : done = g := Except.ok.inj hg
    rwa [List.append_nil]
  | cons c program ih =>
    rw [List.append_cons]
    cases hb : c.block? with
    | some text =>
      rw [run_generateFrom_text hb] at hg
      exact ih (h.add c text) hg
    | none =>
      obtain ⟨stub, rfl⟩ := Construct.eq_function_of_block? hb
      cases hr : (s.answers.headD Script.echo) (Request.ofStub stub done.blocks) with
      | error cause =>
        rw [run_generateFrom_error hr] at hg
        cases hg
      | ok content =>
        rw [run_generateFrom_ok hr] at hg
        exact ih (h.add (.function stub) (Reply.block content)) hg

/-- A block is empty, or it has something in it that is not blank. -/
theorem Reply.block_eq_nil_or (content : Option Text) :
    block content = [] ∨ ∃ c ∈ block content, Text.isBlank c = false := by
  rw [block]
  split
  · exact Or.inl rfl
  · rename_i hblank
    right
    rw [Text.isBlankText, Bool.not_eq_true, List.all_eq_false] at hblank
    obtain ⟨c, hc, hnot⟩ := hblank
    exact ⟨c, hc, by simpa using hnot⟩

theorem Program.mayEmit_texts {n : Nat} {program : Program} {contents : List (Option Text)}
    (h : (program.functionsFrom n).length ≤ contents.length) :
    List.Forall₂ Construct.MayEmit program (program.texts contents) := by
  induction program generalizing n contents with
  | nil => exact .nil
  | cons c program ih =>
    cases hb : c.block? with
    | some text =>
      rw [functionsFrom_text hb] at h
      rw [texts_text hb]
      exact .cons (Construct.mayEmit_of_block? hb) (ih h)
    | none =>
      obtain ⟨stub, rfl⟩ := Construct.eq_function_of_block? hb
      cases contents with
      | nil => simp [functionsFrom] at h
      | cons content contents =>
        simp only [functionsFrom, List.length_cons, Nat.add_le_add_iff_right] at h
        simp only [texts, hb]
        exact .cons (Reply.block_eq_nil_or content) (ih h)

/-- The text of a function is the block of what came back for it. -/
theorem Program.getElem?_texts {program : Program} {contents : List (Option Text)} {n k place : Nat}
    {stub : Stub} {content : Option Text} (hk : (program.functionsFrom n)[k]? = some (place, stub))
    (hcontent : contents[k]? = some content) :
    n ≤ place ∧ (program.texts contents)[place - n]? = some (Reply.block content) := by
  induction program generalizing contents n k with
  | nil => simp [functionsFrom] at hk
  | cons c program ih =>
    cases hb : c.block? with
    | some text =>
      rw [functionsFrom_text hb] at hk
      obtain ⟨hle, htext⟩ := ih hk hcontent
      have hplace : place - n = place - (n + 1) + 1 := by omega
      rw [texts_text hb, hplace, List.getElem?_cons_succ]
      exact ⟨by omega, htext⟩
    | none =>
      obtain ⟨own, rfl⟩ := Construct.eq_function_of_block? hb
      cases contents with
      | nil => simp at hcontent
      | cons first contents =>
        rw [functionsFrom] at hk
        simp only [texts, hb]
        cases k with
        | zero =>
          rw [List.getElem?_cons_zero, Option.some.injEq, Prod.mk.injEq] at hk
          rw [List.getElem?_cons_zero, Option.some.injEq] at hcontent
          obtain ⟨rfl, -⟩ := hk
          rw [hcontent, Nat.sub_self]
          exact ⟨Nat.le_refl n, rfl⟩
        | succ k =>
          rw [List.getElem?_cons_succ] at hk hcontent
          obtain ⟨hle, htext⟩ := ih hk hcontent
          have hplace : place - n = place - (n + 1) + 1 := by omega
          rw [hplace, List.getElem?_cons_succ]
          exact ⟨by omega, htext⟩

/-! ### What the user is told -/

/-- The diagnostic warns of a function without a body. -/
structure Diagnostic.WarnsOf (file name : Text) (d : Diagnostic) : Prop where
  level : d.level = .warning
  message : d.message = "completion for `" ++ name ++ "` returned no content"
  file : d.file = some file

/-- The diagnostic notes that `count` functions were kept. -/
structure Diagnostic.NotesKept (file : Text) (count : Nat) (d : Diagnostic) : Prop where
  level : d.level = .note
  message : d.message = Text.ofNat count ++ " pinned function(s) reused from the previous output"
  file : d.file = some file

/-- A warning for each of `names`, in order, then one note if `kept` is not zero, and nothing else. -/
def Sink.Tells (file : Text) (names : List Text) (kept : Nat) (sink : Sink) : Prop :=
  ∃ warnings notes, sink = warnings ++ notes ∧
    List.Forall₂ (Diagnostic.WarnsOf file) names warnings ∧
    (kept = 0 → notes = []) ∧ (0 < kept → ∃ d, notes = [d] ∧ d.NotesKept file kept)

theorem Report.tells_diagnostics (file : Text) (r : Report) :
    (r.diagnostics file).Tells file r.emptyResponses r.pinned := by
  refine ⟨_, _, rfl, ?_, ?_, ?_⟩
  · rw [List.forall₂_map_right_iff]
    exact List.forall₂_same.2 fun name _ => ⟨rfl, rfl, rfl⟩
  · intro hnone
    exact if_pos hnone
  · intro hsome
    exact ⟨_, if_neg (by omega), rfl, rfl, rfl⟩

theorem Sink.Tells.hasErrors_eq {file : Text} {names : List Text} {kept : Nat} {sink : Sink}
    (h : sink.Tells file names kept) : sink.hasErrors = false := by
  obtain ⟨warnings, notes, rfl, hwarnings, hnone, hsome⟩ := h
  have hlevels : ∀ d ∈ warnings ++ notes, d.level ≠ .error := by
    intro d hd
    rcases List.mem_append.1 hd with hd | hd
    · obtain ⟨name, -, hwarns⟩ := exists_of_forall₂_of_mem hwarnings hd
      rw [hwarns.level]
      decide
    · by_cases hkept : kept = 0
      · rw [hnone hkept] at hd
        cases hd
      · obtain ⟨note, rfl, hnote⟩ := hsome (by omega)
        rw [List.mem_singleton.1 hd, hnote.level]
        decide
  rw [hasErrors, List.any_eq_false]
  intro d hd
  simpa using hlevels d hd

/-! ### The account of a run -/

/-- The account that `g` gives of the run through `program` whose transcript is `t`. -/
structure Generated.AccountsFor (g : Generated) (program : Program) (t : Transcript) : Prop where
  /-- Every construct has its text, -/
  texts : List.Forall₂ Construct.MayEmit program t.texts
  /-- which for a function is the block of the reply to its request. -/
  replies : ∀ (k place : Nat) (stub : Stub), program.functions[k]? = some (place, stub) →
    ∃ content : Option Text, t.replies[k]? = some (.ok content) ∧ t.texts[place]? = some (Reply.block content)
  /-- The texts are the blocks; one call comes after them if any function is the entry point. -/
  blocks : g.blocks =
    t.texts ++ if ∃ c ∈ program, c.functionName? = some entryPoint then [entryCall] else []
  code : g.code = List.intercalate "\n\n" g.blocks
  counts : g.report.Counts program t.texts
  sent : t.sent.length = g.report.requested
  total : g.report.requested + g.report.pinned + g.report.structural = program.length
  diagnostics : ∀ file,
    (g.report.diagnostics file).Tells file (program.unanswered t.texts)
        (program.countP Construct.isPinned) ∧
      (g.report.diagnostics file).hasErrors = false

theorem Program.any_isEntryPoint_iff {program : Program} :
    program.any Construct.isEntryPoint = true ↔ ∃ c ∈ program, c.functionName? = some entryPoint := by
  simp [Construct.isEntryPoint]

theorem Generated.blocks_finish (g : Generated) :
    g.finish.blocks = g.blocks ++ if g.report.hasEntryPoint then [entryCall] else [] := by
  rw [finish]
  split
  · rfl
  · exact (List.append_nil g.blocks).symm

theorem Generated.report_finish (g : Generated) : g.finish.report = g.report := by
  rw [finish]
  split <;> rfl

theorem transcript_counts {answers : List (Request → Reply)} {program : Program} {g : Generated}
    (h : (transcript answers program).result = .ok g) :
    g.report.Counts program (transcript answers program).texts := by
  have hblocks := (transcript_of_ok h).1
  rw [transcript, generateWith_eq] at h
  dsimp only at h
  cases hrun : ((generateFrom Script.complete {} program).run ⟨answers, []⟩).1 with
  | error e =>
    rw [hrun] at h
    cases h
  | ok done =>
    have hcounts := run_generateFrom_counts Report.counts_nil hrun
    rw [hrun] at h
    obtain rfl : done.finish = g := Except.ok.inj h
    -- Both lists of blocks end in the same call, if in any.
    rw [Generated.blocks_finish, Generated.report_finish] at hblocks
    rw [Generated.report_finish, ← List.append_cancel_right hblocks]
    exact hcounts

/-- The report and the diagnostics of a successful run account for every construct. -/
theorem generation_accounted {answers : List (Request → Reply)} {program : Program} {g : Generated}
    (h : (transcript answers program).result = .ok g) :
    g.AccountsFor program (transcript answers program) := by
  have hcounts := transcript_counts h
  obtain ⟨hblocks, -, hasks⟩ := transcript_of_ok h
  obtain ⟨contents, result, hresult, -, htexts, hend⟩ := transcript_spec answers program
  cases result with
  | error e =>
    rw [h] at hresult
    cases hresult
  | ok done =>
    obtain ⟨hreplies, hlength, -⟩ := hend
    have hcontents : contents.length = program.functions.length := hlength
    refine ⟨?_, ?_, ?_, rfl, hcounts, ?_, ?_, ?_⟩
    · rw [htexts]
      exact Program.mayEmit_texts (Nat.le_of_eq hcontents.symm)
    · intro k place stub hk
      have hlt : k < contents.length := by
        rw [hcontents]
        exact (List.getElem?_eq_some_iff.1 hk).1
      have hcontent : contents[k]? = some contents[k] := List.getElem?_eq_getElem hlt
      refine ⟨contents[k], ?_, ?_⟩
      · rw [hreplies, List.getElem?_map, hcontent]
        rfl
      · rw [htexts]
        exact (Program.getElem?_texts hk hcontent).2
    · rw [hblocks, hcounts.hasEntryPoint]
      simp only [Program.any_isEntryPoint_iff]
    · rw [hasks.length_eq, Program.length_functionsFrom, hcounts.requested]
    · rw [hcounts.requested, hcounts.pinned, hcounts.structural, Program.length_eq_countP]
    · intro file
      have htells := g.report.tells_diagnostics file
      rw [hcounts.emptyResponses, hcounts.pinned] at htells
      exact ⟨htells, htells.hasErrors_eq⟩

/-- One function is declared twice and stays without a body, and two have the name of the entry point. -/
theorem generation_accounted_of_two_entry_points :
    let program : Program :=
      [.function ⟨"f", [], "void", []⟩, .pinned ⟨"main", [], "void", []⟩ "function main() \x7b\n\x7d",
        .union "Shade" ["Red"], .function ⟨"f", [], "void", []⟩, .function ⟨"main", [], "void", []⟩]
    let answers : List (Request → Reply) :=
      [fun _ => .ok none, fun _ => .ok (some "```\n```"), fun r => .ok (some r.prompt)]
    ∃ g, (transcript answers program).result = .ok g ∧
      g.AccountsFor program (transcript answers program) ∧
      g.report = ⟨3, 1, 1, ["f", "f"], true⟩ ∧ g.blocks.length = 6 := by
  intro program answers
  exact ⟨_, rfl, generation_accounted rfl, by decide +kernel, by decide +kernel⟩

end StubCompiler
