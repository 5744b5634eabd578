import StubCompiler.Proofs.Session

/-!
# Reading one's own output

The first output of a source is not always one that the source can be read against again.  The reader
takes a type definition as a whole, the search of an output does not: an unindented line inside it that
starts like a function is a header to the search.  The search fails at such a line if there is no name
in it, and takes the rest of the type definition for the function if it is the name looked for.  This
module says exactly when that happens.
-/

namespace StubCompiler

open PreviousOutput

/-- The search of an output for `name` ends at the construct. -/
def Construct.stops (name : Text) (c : Construct) : Bool :=
  c.headerName = some none || c.headerName = some (some name)

theorem Program.find?_texts {program : Program} {texts : List Text}
    (hdecl : ∀ c ∈ program, c.IsDeclared) (h : List.Forall₂ Construct.IsWrittenAs program texts)
    {name : Text} {c : Construct} (hc : program.find? (Construct.stops name) = some c) :
    ∃ (i : Nat) (t : Text), program[i]? = some c ∧ texts[i]? = some t ∧
      c.IsWrittenAs t ∧ texts.find? (stops name) = some t := by
  induction h with
  | nil => cases hc
  | @cons d t program texts ht _ ih =>
    have hname := (ht.isSearchable (hdecl d (by simp))).2
    have hsame : stops name t = Construct.stops name d := by
      rw [stops, Construct.stops, hname]
    rw [List.find?_cons] at hc
    cases hd : Construct.stops name d with
    | true =>
      rw [hd] at hc
      obtain rfl : d = c := Option.some.inj hc
      refine ⟨0, t, rfl, rfl, ht, ?_⟩
      rw [List.find?_cons, hsame, hd]
    | false =>
      rw [hd] at hc
      obtain ⟨i, u, hi, hu, hwritten, hfind⟩ := ih (fun e he => hdecl e (List.mem_cons_of_mem d he)) hc
      refine ⟨i + 1, u, hi, hu, hwritten, ?_⟩
      rw [List.find?_cons, hsame, hd]
      exact hfind

/-- Read without an output, a source stands for its declarations. -/
theorem Declaration.program_eq {ds : List Declaration} {program : Program}
    (h : List.Forall₂ (fun d c => d.resolve (.ofText []) = .ok c) ds program) :
    program = ds.map Declaration.construct := by
  induction h with
  | nil => rfl
  | @cons d c ds program hc _ ih =>
    have hsearch : ∀ name, (ofText []).function? name = .ok none := by
      intro name
      have hlines : Line.ofSource [] = [⟨1, 0, []⟩] := rfl
      rw [function?, ofText, hlines, search_blank rfl, search]
    rw [ih, List.map_cons]
    rcases resolve_cases hc with rfl | ⟨stub, body, -, -, hfound⟩
    · rfl
    · rw [hsearch] at hfound
      cases hfound

theorem Program.exists_find? {program : Program} {stub : Stub} (h : .function stub ∈ program) :
    ∃ c, program.find? (Construct.stops stub.name) = some c := by
  cases hfind : program.find? (Construct.stops stub.name) with
  | some c => exact ⟨c, rfl⟩
  | none =>
    have hpass := List.find?_eq_none.1 hfind _ h
    simp [Construct.stops, Construct.headerName] at hpass

/-- What the search for a function takes out of an output of the program when it ends at `c`: the block
of a function of that name, or the rest of a type definition from a header on. -/
def Construct.IsTakenAs (c : Construct) (name block : Text) (taken : Text) : Prop :=
  (∃ stub, c = .function stub ∧ stub.name = name ∧ taken = block) ∨
    (c = .typeDefinition block ∧ taken = Text.unlines (sighting block))

theorem Construct.isTakenAs_of_headerName {c : Construct} {name t : Text} (hdecl : c.IsDeclared)
    (ht : c.IsWrittenAs t) (hname : c.headerName = some (some name)) :
    c.IsTakenAs name t (Text.unlines (sighting t)) := by
  cases c with
  | function stub =>
    have hblock : IsFunctionBlock stub.name t := ht
    refine Or.inl ⟨stub, rfl, by simpa [headerName] using hname, ?_⟩
    rw [hblock.sighting_eq, Text.unlines_lines]
  | pinned stub body => exact hdecl.elim
  | typeDefinition body =>
    obtain rfl : body = t := Option.some.inj ht
    exact Or.inr ⟨rfl, rfl⟩
  | union other tags => cases hname
  | exportList names => cases hname

/-- The search for `name` in an output of the program, when it ends at the construct `c`. -/
theorem function?_ownOutput {program : Program} {texts : List Text} {code : Text}
    (hdecl : ∀ c ∈ program, c.IsDeclared) (h : List.Forall₂ Construct.IsWrittenAs program texts)
    (hcode : IsOutputOf code texts) {name : Text} {c : Construct}
    (hc : program.find? (Construct.stops name) = some c) :
    (c.headerName = some none ∧ ∃ cause, (ofText code).function? name = .error cause) ∨
      c.headerName = some (some name) ∧ ∃ (i : Nat) (t taken : Text),
        program[i]? = some c ∧ texts[i]? = some t ∧ c.IsTakenAs name t taken ∧
          (ofText code).function? name = .ok (some taken) := by
  have hsearch := Program.isSearchable_texts hdecl h
  obtain ⟨i, t, hi, ht, hwritten, hfind⟩ := Program.find?_texts hdecl h hc
  have hcdecl : c.IsDeclared := hdecl c (List.mem_of_find?_eq_some hc)
  have hmet := (hwritten.isSearchable hcdecl).2
  have hstop : c.headerName = some none ∨ c.headerName = some (some name) := by
    simpa [Construct.stops] using List.find?_some hc
  rcases hstop with hnone | hname
  · have herror : find name texts = .error .missingFunctionName := by
      simp only [find, hfind, hmet, hnone, if_true]
    exact Or.inl ⟨hnone, exists_function?_eq_error hcode hsearch herror⟩
  · have hok : find name texts = .ok (some (Text.unlines (sighting t))) := by
      simp [find, hfind, hmet, hname]
    exact Or.inr ⟨hname, i, t, Text.unlines (sighting t), hi, ht,
      Construct.isTakenAs_of_headerName hcdecl hwritten hname, function?_eq_ok hcode hsearch hok⟩

/-- What the compilation of a source without an output writes, and when the source can be read against
it: for no function that is declared pinned may the search end at a type definition in which a header
has no name.  If the search ends elsewhere, it takes the block of a function of the right name, or it
mistakes a part of a type definition for one. -/
theorem ownOutput_readable_iff {source : Text} {program : Program}
    (hread : readProgram source [] = .ok program) {answers : List (Request → Reply)}
    (hreplies : (compileWith answers source []).IsWellBehaved) :
    ∃ ds g, Declares source ds ∧ (compileWith answers source []).result = .ok g ∧
      ((∃ reread, readProgram source g.code = .ok reread) ↔
        ∀ stub, ⟨true, .function stub⟩ ∈ ds →
          ∀ c, program.find? (Construct.stops stub.name) = some c → c.headerName ≠ some none) ∧
      ∀ stub, ⟨true, .function stub⟩ ∈ ds →
        ∀ c, program.find? (Construct.stops stub.name) = some c → c.headerName ≠ some none →
          ∃ (i : Nat) (block taken : Text), program[i]? = some c ∧ g.blocks[i]? = some block ∧
            c.IsTakenAs stub.name block taken ∧
              (ofText g.code).function? stub.name = .ok (some taken) := by
  obtain ⟨ds, hds, hprogram⟩ := exists_declares hread
  obtain ⟨g, texts, hwrote, -, hwritten⟩ := compileWith_wrote hread hreplies
  have hsame := Declaration.program_eq hprogram
  have hdecl : ∀ c ∈ program, c.IsDeclared := by
    rw [hsame]
    intro c hc
    obtain ⟨d, hd, rfl⟩ := List.mem_map.1 hc
    exact (hds.isDeclared d hd).1
  have hmem : ∀ stub, ⟨true, .function stub⟩ ∈ ds → Construct.function stub ∈ program := by
    intro stub hstub
    rw [hsame]
    exact List.mem_map.2 ⟨_, hstub, rfl⟩
  refine ⟨ds, g, hds, hwrote.result, ?_, ?_⟩
  · rw [hds.exists_readProgram_iff]
    constructor
    · intro hfound stub hstub c hc hnone
      obtain ⟨found, hfound⟩ := hfound stub hstub
      rcases function?_ownOutput hdecl hwritten hwrote.isOutputOf hc with ⟨-, cause, herror⟩ | ⟨hname, -⟩
      · rw [hfound] at herror
        cases herror
      · rw [hnone] at hname
        cases hname
    · intro hnamed stub hstub
      obtain ⟨c, hc⟩ := Program.exists_find? (hmem stub hstub)
      rcases function?_ownOutput hdecl hwritten hwrote.isOutputOf hc with ⟨hnone, -⟩ | ⟨-, i, t, taken, -, -, -, hfound⟩
      · exact absurd hnone (hnamed stub hstub c hc)
      · exact ⟨some taken, hfound⟩
  · intro stub hstub c hc hnamed
    rcases function?_ownOutput hdecl hwritten hwrote.isOutputOf hc with ⟨hnone, -⟩ | ⟨-, i, t, taken, hi, ht, htaken, hfound⟩
    · exact absurd hnone hnamed
    · refine ⟨i, t, taken, hi, ?_, htaken, hfound⟩
      rw [hwrote.blocks, List.getElem?_append_left (List.getElem?_eq_some_iff.1 ht).1, ht]

/-- An indented field is no header, whatever its name. -/
theorem ownOutput_readable_of_indented_field :
    let source : Text :=
      "type Tool = \x7b\n    functionName: string;\n\x7d\n\npinned function main(): void \x7b\n\x7d"
    ∃ g, (compileWith [] source []).result = .ok g ∧
      ∃ reread, readProgram source g.code = .ok reread := by
  intro source
  have hread : readProgram source [] = .ok
      [.typeDefinition "type Tool = \x7b\n    functionName: string;\n\x7d",
        .function ⟨"main", [], "void", []⟩] := by
    decide +kernel
  have hreplies : (compileWith [] source []).IsWellBehaved := by
    unfold Compilation.IsWellBehaved
    decide +kernel
  obtain ⟨ds, g, -, hg, hiff, -⟩ := ownOutput_readable_iff hread hreplies
  refine ⟨g, hg, hiff.2 ?_⟩
  intro stub _ c hc
  have hmem := List.mem_of_find?_eq_some hc
  have hnamed : ∀ c ∈ ([.typeDefinition "type Tool = \x7b\n    functionName: string;\n\x7d",
      .function ⟨"main", [], "void", []⟩] : Program), c.headerName ≠ some none := by
    decide
  exact hnamed c hmem

/-- A field at the start of its line is a header without a name: the source cannot be read again. -/
theorem ownOutput_unreadable :
    let source : Text :=
      "type Tool = \x7b\nfunctionName: string;\n\x7d\n\npinned function main(): void \x7b\n    // print the tool\n\x7d\n"
    (compileWith [] source []).IsWellBehaved ∧ (compileWith [] source []).result.toOption.isSome = true ∧
      readProgram source ((compileWith [] source []).next []) =
        .error [.pinning "main" ⟨5, 39, "pinned function main(): void \x7b"⟩
          ⟨.missingFunctionName, ⟨2, 14, "functionName: string;"⟩⟩] := by
  intro source
  refine ⟨?_, ?_, ?_⟩
  · unfold Compilation.IsWellBehaved
    decide +kernel
  · decide +kernel
  · decide +kernel

end StubCompiler
