import Mathlib.Data.List.TakeWhile
import StubCompiler.Proofs.Causality
import StubCompiler.Proofs.Declarations
import StubCompiler.Proofs.Output
import StubCompiler.Proofs.RoundTrip

/-!
# What is written for a construct

When every reply is one block of the function that was asked for, the output has a function block for
every function and a fixed text for every other construct.  What a later search sees of such an output
depends on the constructs alone: functions under their names, and of the rest only headers that stand
inside type definitions.
-/

namespace StubCompiler

open PreviousOutput

/-! ### Well-behaved replies -/

/-- The reply is one block of the function `name`, in a fence or not. -/
def Reply.IsWellBehaved (name : Text) : Reply → Prop
  | .ok (some t) => IsFunctionBlock name (unfence t)
  | _ => False

instance (name : Text) (reply : Reply) : Decidable (reply.IsWellBehaved name) :=
  match reply with
  | .ok (some t) => inferInstanceAs (Decidable (IsFunctionBlock name (Reply.unfence t)))
  | .ok none => isFalse id
  | .error _ => isFalse id

/-- Every reply is well-behaved for the function that was asked for. -/
def Transcript.IsWellBehaved (t : Transcript) : Prop :=
  List.Forall₂ (fun r reply => Reply.IsWellBehaved r.function reply) t.sent t.replies

/-- The text can stand for the construct in an output. -/
def Construct.IsWrittenAs : Construct → Text → Prop
  | .function stub, t => IsFunctionBlock stub.name t
  | c, t => c.block? = some t

theorem Reply.isFunctionBlock_block {name : Text} {content : Option Text}
    (h : IsWellBehaved name (.ok content)) : IsFunctionBlock name (block content) := by
  cases content with
  | none => exact h.elim
  | some t =>
    have hblock : IsFunctionBlock name (unfence t) := h
    rw [block, Option.getD_some, hblock.isBlankText_eq]
    exact hblock

theorem Construct.isWrittenAs_of_block? {c : Construct} {t : Text} (h : c.block? = some t) :
    c.IsWrittenAs t := by
  cases c with
  | function stub => simp [block?] at h
  | _ => exact h

theorem Program.isWrittenAs_texts {n : Nat} {program : Program} {contents : List (Option Text)}
    (h : List.Forall₂ (fun (_, stub) content => Reply.IsWellBehaved stub.name (.ok content))
      (program.functionsFrom n) contents) :
    List.Forall₂ Construct.IsWrittenAs program (program.texts contents) := by
  induction program generalizing n contents with
  | nil => exact .nil
  | cons c program ih =>
    cases hb : c.block? with
    | some text =>
      rw [functionsFrom_text hb] at h
      rw [texts_text hb]
      exact .cons (Construct.isWrittenAs_of_block? hb) (ih h)
    | none =>
      obtain ⟨stub, rfl⟩ := Construct.eq_function_of_block? hb
      cases h with
      | cons hcontent hrest =>
        exact .cons (Reply.isFunctionBlock_block hcontent) (ih hrest)

/-- With well-behaved replies a run succeeds, and every construct is written as it should be. -/
theorem Transcript.IsWellBehaved.exists_ok {answers : List (Request → Reply)} {program : Program}
    (h : (transcript answers program).IsWellBehaved) :
    ∃ g, (transcript answers program).result = .ok g ∧
      List.Forall₂ Construct.IsWrittenAs program (transcript answers program).texts := by
  obtain ⟨contents, result, hresult, hsent, htexts, hend⟩ := transcript_spec answers program
  cases result with
  | error e =>
    obtain ⟨stub, cause, hreplies, -, -⟩ := hend
    obtain ⟨r, -, hr⟩ := exists_of_forall₂_of_mem h (y := .error cause) (by simp [hreplies])
    exact hr.elim
  | ok done =>
    obtain ⟨hreplies, hlength, -⟩ := hend
    have hcontents : contents.length = (program.functionsFrom 0).length := hlength
    refine ⟨done.finish, hresult, ?_⟩
    rw [htexts]
    apply Program.isWrittenAs_texts (n := 0)
    rw [IsWellBehaved, hsent, hreplies, Program.requests_eq, List.length_nil,
      List.take_of_length_le (by omega), List.forall₂_map_left_iff, List.forall₂_map_right_iff] at h
    exact h

/-! ### What a search sees of a construct -/

/-- The name under which the search of an output meets the construct, if it meets it at all. -/
def Construct.headerName : Construct → Option (Option Text)
  | .function stub | .pinned stub _ => some (some stub.name)
  | .typeDefinition body => PreviousOutput.headerName body
  | .union _ _ | .exportList _ => none

theorem sighting_of_not_mem {t : Text} (hbreak : '\n' ∉ t)
    (hkind : (LineKind.ofTrimmed t.trim).startsFunction = false) : sighting t = [] := by
  have hheader : isHeaderText t = false := by
    rw [isHeaderText, isHeader, Line.kind, hkind]
    rfl
  rw [sighting, Text.lines_of_not_mem hbreak, List.dropWhile_cons, hheader]
  rfl

theorem headerName_of_sighting {t : Text} (h : sighting t = []) : PreviousOutput.headerName t = none := by
  rw [PreviousOutput.headerName, h]
  rfl

theorem sighting_printUnion {name : Text} {tags : List Text} (hname : '\n' ∉ name)
    (htags : ∀ t ∈ tags, '\n' ∉ t) : sighting (printUnion name tags) = [] := by
  have hjoin : '\n' ∉ List.intercalate " | " tags := Text.not_mem_intercalate (by decide) htags
  have htrim : (printUnion name tags).trim = printUnion name tags := by
    have hkey : ("type " : Text) = 't' :: ("ype " : Text) := rfl
    have hsemi : (";" : Text) = [';'] := rfl
    unfold printUnion
    simp only [hkey, hsemi, List.cons_append]
    exact Text.trim_cons_concat _ (by decide) (by decide)
  have hkind : LineKind.ofTrimmed (printUnion name tags) = .typeDefinition := by
    have hkey : ("type " : Text) = "type" ++ " " := rfl
    unfold printUnion
    simp only [hkey, List.append_assoc]
    exact LineKind.ofTrimmed_append (by decide) _
  apply sighting_of_not_mem
  · unfold printUnion
    simp only [List.mem_append, not_or]
    exact ⟨⟨⟨⟨by decide, hname⟩, by decide⟩, hjoin⟩, by decide⟩
  · rw [htrim, hkind]
    rfl

theorem sighting_printExports {names : List Text} (hnames : ∀ t ∈ names, '\n' ∉ t) :
    sighting (printExports names) = [] := by
  have hjoin : '\n' ∉ List.intercalate ", " names := Text.not_mem_intercalate (by decide) hnames
  have htrim : (printExports names).trim = printExports names := by
    have hkey : ("export \x7b " : Text) = 'e' :: ("xport \x7b " : Text) := rfl
    have hsemi : (" \x7d;" : Text) = " \x7d" ++ [';'] := rfl
    unfold printExports
    simp only [hkey, hsemi, List.cons_append, ← List.append_assoc]
    exact Text.trim_cons_concat _ (by decide) (by decide)
  have hkind : LineKind.ofTrimmed (printExports names) = .exportList := by
    have hkey : ("export \x7b " : Text) = "export" ++ " \x7b " := rfl
    unfold printExports
    simp only [hkey, List.append_assoc]
    exact LineKind.ofTrimmed_append (by decide) _
  apply sighting_of_not_mem
  · unfold printExports
    simp only [List.mem_append, not_or]
    exact ⟨⟨by decide, hjoin⟩, by decide⟩
  · rw [htrim, hkind]
    rfl

/-- A written text can be searched, and the search meets it as the construct says. -/
theorem Construct.IsWrittenAs.isSearchable {c : Construct} {t : Text} (h : c.IsWrittenAs t)
    (hc : c.IsDeclared) : IsSearchable t ∧ PreviousOutput.headerName t = c.headerName := by
  cases c with
  | function stub =>
    have hblock : IsFunctionBlock stub.name t := h
    exact ⟨hblock.isSearchable, hblock.headerName_eq⟩
  | pinned stub body => exact hc.elim
  | typeDefinition body =>
    obtain rfl : body = t := Option.some.inj h
    exact ⟨Or.inr hc.2, rfl⟩
  | union name tags =>
    obtain rfl : printUnion name tags = t := Option.some.inj h
    have hsight := sighting_printUnion hc.1 hc.2
    exact ⟨Or.inl hsight, headerName_of_sighting hsight⟩
  | exportList names =>
    obtain rfl : printExports names = t := Option.some.inj h
    have hsight := sighting_printExports hc
    exact ⟨Or.inl hsight, headerName_of_sighting hsight⟩

theorem Program.isSearchable_texts {program : Program} {texts : List Text}
    (hdecl : ∀ c ∈ program, c.IsDeclared) (h : List.Forall₂ Construct.IsWrittenAs program texts) :
    ∀ t ∈ texts, IsSearchable t := by
  intro t ht
  obtain ⟨c, hc, hwritten⟩ := exists_of_forall₂_of_mem h ht
  exact (hwritten.isSearchable (hdecl c hc)).1

theorem Construct.headerName_typeDefinition {body : Text} (hc : (typeDefinition body).IsDeclared)
    (h : ∀ line ∈ (Line.ofSource body).tail, isHeader line = false) :
    (typeDefinition body).headerName = none := by
  obtain ⟨hfirst, -⟩ := hc
  have hall : ∀ line ∈ Line.ofSource body, isHeader line = false := by
    cases hlines : Line.ofSource body with
    | nil =>
      intro line hline
      cases hline
    | cons first rest =>
      rw [hlines] at hfirst h
      intro line hline
      rcases List.mem_cons.1 hline with rfl | hline
      · have hkind : line.kind = .typeDefinition := Option.some.inj hfirst
        rw [isHeader, hkind]
        rfl
      · exact h line hline
  apply headerName_of_sighting
  rw [sighting, List.dropWhile_eq_nil_iff]
  intro t ht
  rw [← Line.map_text_ofSource] at ht
  obtain ⟨line, hline, rfl⟩ := List.mem_map.1 ht
  rw [← isHeader_eq, hall line hline]
  rfl

/-! ### Searching what was written -/

theorem sighting_entryCall : sighting entryCall = [] := by decide

/-- The texts stand for the declared constructs, one each. -/
def Declaration.AreWrittenAs (ds : List Declaration) (texts : List Text) : Prop :=
  List.Forall₂ (fun d t => d.construct.IsWrittenAs t) ds texts

/-- The output that a run writes: the texts, and the call of the entry point if there is one. -/
def IsOutputOf (code : Text) (texts : List Text) : Prop :=
  ∃ isCalled : Bool, code = assemble (texts ++ if isCalled then [entryCall] else [])

theorem function?_of_isOutputOf {code : Text} {texts : List Text} (hcode : IsOutputOf code texts)
    (h : ∀ t ∈ texts, IsSearchable t) (name : Text) :
    ((ofText code).function? name).mapError Fault.complaint = find name texts := by
  obtain ⟨isCalled, rfl⟩ := hcode
  have hall : ∀ t ∈ texts ++ (if isCalled then [entryCall] else []), IsSearchable t := by
    intro t ht
    rcases List.mem_append.1 ht with ht | ht
    · exact h t ht
    · cases isCalled with
      | false => cases ht
      | true =>
        obtain rfl : t = entryCall := by simpa using ht
        exact Or.inl sighting_entryCall
  have hcall : (if isCalled then [entryCall] else []).find? (stops name) = none := by
    cases isCalled with
    | false => rfl
    | true =>
      have hname : PreviousOutput.headerName entryCall = none := headerName_of_sighting sighting_entryCall
      simp [stops, hname]
  rw [function?_assemble hall, find, find, List.find?_append, hcall, Option.or_none]

section
variable {code : Text} {texts : List Text} (hcode : IsOutputOf code texts)
  (h : ∀ t ∈ texts, IsSearchable t) {name : Text}
include hcode h

theorem function?_eq_ok {found : Option Text} (hfind : find name texts = .ok found) :
    (ofText code).function? name = .ok found := by
  rw [← function?_of_isOutputOf hcode h] at hfind
  cases hresult : (ofText code).function? name with
  | error cause =>
    rw [hresult] at hfind
    cases hfind
  | ok other =>
    rw [hresult] at hfind
    exact congrArg Except.ok (Except.ok.inj hfind)

theorem exists_function?_eq_error {complaint : Complaint} (hfind : find name texts = .error complaint) :
    ∃ cause, (ofText code).function? name = .error cause := by
  rw [← function?_of_isOutputOf hcode h] at hfind
  cases hresult : (ofText code).function? name with
  | error cause => exact ⟨cause, rfl⟩
  | ok other =>
    rw [hresult] at hfind
    cases hfind

end

end StubCompiler
