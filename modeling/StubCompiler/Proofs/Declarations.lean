import Mathlib.Data.List.Forall2
import StubCompiler.Proofs.Blocks

/-!
# What a source declares

The last output is needed for one thing only, the bodies of pinned functions.  Everything else that a
source says is read off its lines once and for all: these are its declarations.  A program is read by
resolving them, one by one, in the last output (`Declares.readProgram_eq_ok_iff`).
-/

namespace StubCompiler

/-- A construct as the source has it; a pinned function is a function with a flag. -/
structure Declaration where
  isPinned : Bool
  construct : Construct
deriving DecidableEq, Repr

def Declaration.resolve (previous : PreviousOutput) (d : Declaration) : Except Fault Construct :=
  match d with
  | ⟨true, .function stub⟩ =>
    match previous.function? stub.name with
    | .ok (some body) => .ok (.pinned stub body)
    | .ok none => .ok (.function stub)
    | .error cause => .error cause
  | ⟨_, c⟩ => .ok c

def SourceBlock.declaration? (b : SourceBlock) : Option Declaration :=
  match b.construct ⟨[]⟩ with
  | .ok c => some ⟨b.header.kind == .pinnedFunction, c⟩
  | .error _ => none

/-- All blocks of the source can be read, and these are their declarations. -/
def Declares (source : Text) (ds : List Declaration) : Prop :=
  ∃ blocks, SourceBlock.ofLines (Line.ofSource source) = .ok blocks ∧
    List.Forall₂ (fun b d => b.declaration? = some d) blocks ds

/-! ### Reading a program -/

theorem PreviousOutput.function?_nil (name : Text) :
    (⟨[]⟩ : PreviousOutput).function? name = .ok none := by
  rw [function?, search]

theorem SourceBlock.construct_eq_ok_iff {b : SourceBlock} {previous : PreviousOutput} {c : Construct} :
    b.construct previous = .ok c ↔
      ∃ d, b.declaration? = some d ∧ d.resolve previous = .ok c := by
  unfold declaration? construct
  -- Only a pinned function looks at the last output; all other kinds resolve to what they are.
  cases hkind : b.header.kind with
  | pinnedFunction =>
    unfold Reader.function
    cases Header.stub b.header b.lines.tail.dropLast with
    | error fault => simp
    | ok stub =>
      cases hfound : previous.function? stub.name with
      | error cause =>
        simp [PreviousOutput.resolve, PreviousOutput.function?_nil, Declaration.resolve, hfound]
      | ok body =>
        cases body <;>
          simp [PreviousOutput.resolve, PreviousOutput.function?_nil, Declaration.resolve, hfound]
  | function =>
    unfold Reader.function
    cases Header.stub b.header b.lines.tail.dropLast with
    | error fault => simp
    | ok stub => simp [Declaration.resolve]
  | unionType =>
    dsimp only
    cases Reader.union b.header b.lines with
    | error fault => simp
    | ok c => simp [Declaration.resolve]
  | typeDefinition => simp [Declaration.resolve]
  | exportList => simp [Declaration.resolve]
  | close => simp [Declaration.resolve]
  | blank => simp [Declaration.resolve]
  | other => simp [Declaration.resolve]

theorem SourceBlock.map_construct_eq_iff {blocks : List SourceBlock} {previous : PreviousOutput}
    {program : Program} :
    blocks.map (construct previous) = program.map .ok ↔
      ∃ ds, List.Forall₂ (fun b d => b.declaration? = some d) blocks ds ∧
        List.Forall₂ (fun d c => d.resolve previous = .ok c) ds program := by
  rw [← List.forall₂_eq_eq_eq, List.forall₂_map_left_iff, List.forall₂_map_right_iff]
  constructor
  · intro h
    induction h with
    | nil => exact ⟨[], .nil, .nil⟩
    | cons hb _ ih =>
      obtain ⟨ds, hds, hprogram⟩ := ih
      obtain ⟨d, hd, hc⟩ := construct_eq_ok_iff.1 hb
      exact ⟨d :: ds, .cons hd hds, .cons hc hprogram⟩
  · rintro ⟨ds, hds, hprogram⟩
    induction hds generalizing program with
    | nil =>
      cases hprogram
      exact .nil
    | cons hd _ ih =>
      cases hprogram with
      | cons hc hrest => exact .cons (construct_eq_ok_iff.2 ⟨_, hd, hc⟩) (ih hrest)

theorem Declares.unique {source : Text} {ds es : List Declaration} (hd : Declares source ds)
    (he : Declares source es) : ds = es := by
  obtain ⟨blocks, hblocks, hds⟩ := hd
  obtain ⟨blocks', hblocks', hes⟩ := he
  obtain rfl : blocks = blocks' := Except.ok.inj (hblocks.symm.trans hblocks')
  clear hblocks hblocks'
  induction hds generalizing es with
  | nil =>
    cases hes
    rfl
  | cons hb _ ih =>
    cases hes with
    | cons hb' hrest => rw [Option.some.inj (hb.symm.trans hb'), ih hrest]

theorem exists_declares {source previous : Text} {program : Program}
    (h : readProgram source previous = .ok program) :
    ∃ ds, Declares source ds ∧
      List.Forall₂ (fun d c => d.resolve (.ofText previous) = .ok c) ds program := by
  obtain ⟨blocks, hblocks, hmap⟩ := Reader.readProgram_eq_ok_iff.1 h
  obtain ⟨ds, hds, hprogram⟩ := SourceBlock.map_construct_eq_iff.1 hmap
  exact ⟨ds, ⟨blocks, hblocks, hds⟩, hprogram⟩

theorem Declares.readProgram_eq_ok_iff {source : Text} {ds : List Declaration}
    (h : Declares source ds) {previous : Text} {program : Program} :
    readProgram source previous = .ok program ↔
      List.Forall₂ (fun d c => d.resolve (.ofText previous) = .ok c) ds program := by
  constructor
  · intro hread
    obtain ⟨es, hes, hprogram⟩ := exists_declares hread
    rwa [h.unique hes]
  · intro hprogram
    obtain ⟨blocks, hblocks, hds⟩ := h
    exact Reader.readProgram_eq_ok_iff.2
      ⟨blocks, hblocks, SourceBlock.map_construct_eq_iff.2 ⟨ds, hds, hprogram⟩⟩

theorem exists_forall₂_iff {α β : Type} {R : α → β → Prop} {xs : List α} :
    (∃ ys, List.Forall₂ R xs ys) ↔ ∀ x ∈ xs, ∃ y, R x y := by
  induction xs with
  | nil => exact ⟨fun _ => by simp, fun _ => ⟨[], .nil⟩⟩
  | cons x xs ih =>
    constructor
    · rintro ⟨ys, h⟩
      cases h with
      | @cons _ y _ ys hxy hrest =>
        intro z hz
        rcases List.mem_cons.1 hz with rfl | hz
        · exact ⟨y, hxy⟩
        · exact ih.1 ⟨ys, hrest⟩ z hz
    · intro h
      obtain ⟨y, hy⟩ := h x (by simp)
      obtain ⟨ys, hys⟩ := ih.2 fun z hz => h z (List.mem_cons_of_mem x hz)
      exact ⟨y :: ys, .cons hy hys⟩

theorem Declaration.exists_resolve_iff {previous : PreviousOutput} {d : Declaration} :
    (∃ c, d.resolve previous = .ok c) ↔
      ∀ stub, d = ⟨true, .function stub⟩ → ∃ found, previous.function? stub.name = .ok found := by
  obtain ⟨isPinned, c⟩ := d
  cases isPinned with
  | false => exact ⟨fun _ => nofun, fun _ => ⟨c, by cases c <;> rfl⟩⟩
  | true =>
    cases c with
    | function stub =>
      cases hfound : previous.function? stub.name with
      | error cause => simp [resolve, hfound]
      | ok found => cases found <;> simp [resolve, hfound]
    | pinned stub body => exact ⟨fun _ => nofun, fun _ => ⟨_, rfl⟩⟩
    | typeDefinition body => exact ⟨fun _ => nofun, fun _ => ⟨_, rfl⟩⟩
    | union name tags => exact ⟨fun _ => nofun, fun _ => ⟨_, rfl⟩⟩
    | exportList names => exact ⟨fun _ => nofun, fun _ => ⟨_, rfl⟩⟩

/-- A source can be read against an output if and only if the search succeeds for every function that
is declared pinned. -/
theorem Declares.exists_readProgram_iff {source : Text} {ds : List Declaration} (h : Declares source ds)
    (previous : Text) :
    (∃ program, readProgram source previous = .ok program) ↔
      ∀ stub, ⟨true, .function stub⟩ ∈ ds →
        ∃ found, (PreviousOutput.ofText previous).function? stub.name = .ok found := by
  have hread : (∃ program, readProgram source previous = .ok program) ↔
      ∃ program, List.Forall₂ (fun d c => d.resolve (.ofText previous) = .ok c) ds program :=
    exists_congr fun program => h.readProgram_eq_ok_iff
  rw [hread, exists_forall₂_iff]
  constructor
  · intro hall stub hmem
    exact Declaration.exists_resolve_iff.1 (hall _ hmem) stub rfl
  · intro hall d hd
    refine Declaration.exists_resolve_iff.2 fun stub hstub => hall stub ?_
    rw [← hstub]
    exact hd

/-! ### What is known about declarations -/

theorem map_eq_map_of_forall₂ {α β γ : Type} {R : α → β → Prop} {f : α → γ} {g : β → γ} {xs : List α}
    {ys : List β} (h : List.Forall₂ R xs ys) (hfg : ∀ {x y}, R x y → f x = g y) :
    xs.map f = ys.map g := by
  rw [← List.forall₂_eq_eq_eq, List.forall₂_map_left_iff, List.forall₂_map_right_iff]
  exact h.imp fun _ _ hxy => hfg hxy

theorem exists_of_forall₂_of_mem {α β : Type} {R : α → β → Prop} {xs : List α} {ys : List β}
    (h : List.Forall₂ R xs ys) {y : β} (hy : y ∈ ys) : ∃ x ∈ xs, R x y := by
  induction h with
  | nil => cases hy
  | cons hxy _ ih =>
    rcases List.mem_cons.1 hy with rfl | hy
    · exact ⟨_, by simp, hxy⟩
    · obtain ⟨x, hx, hR⟩ := ih hy
      exact ⟨x, List.mem_cons_of_mem _ hx, hR⟩

/-- What reading makes sure of: no text of the construct spoils the lines of an output. -/
def Construct.IsDeclared : Construct → Prop
  | .function _ => True
  | .pinned _ _ => False
  | .typeDefinition body =>
    (Line.ofSource body).head?.map Line.kind = some .typeDefinition ∧
      Delimiter.brace.Closed (Line.ofSource body)
  | .union name tags => '\n' ∉ name ∧ ∀ t ∈ tags, '\n' ∉ t
  | .exportList names => ∀ t ∈ names, '\n' ∉ t

/-- The block comes from `lines`: it is made of them, and closed if a block must be. -/
structure SourceBlock.IsFrom (lines : List Line) (b : SourceBlock) : Prop where
  subset : b.lines ⊆ lines
  header : b.lines.head? = some b.header
  closed : ∀ d kind, b.header.kind.extent = .block d kind → d.Closed b.lines

theorem SourceBlock.IsFrom.mono {xs ys : List Line} {b : SourceBlock} (h : b.IsFrom xs)
    (hsub : xs ⊆ ys) : b.IsFrom ys :=
  ⟨fun _ hl => hsub (h.subset hl), h.header, h.closed⟩

theorem SourceBlock.isFrom_of_ofLines {lines : List Line} {blocks : List SourceBlock}
    (h : ofLines lines = .ok blocks) : ∀ b ∈ blocks, b.IsFrom lines := by
  induction lines using ofLines.induct generalizing blocks with
  | case1 =>
    rw [ofLines_nil] at h
    cases h
    intro b hb
    cases hb
  | case2 line lines hext ih =>
    rw [ofLines_skip hext] at h
    intro b hb
    exact (ih h b hb).mono (List.subset_cons_self line lines)
  | case3 line lines hext ih =>
    rw [ofLines_line hext] at h
    cases hrest : ofLines lines with
    | error fault => rw [hrest] at h; cases h
    | ok rest =>
      rw [hrest] at h
      cases h
      intro b hb
      rcases List.mem_cons.1 hb with rfl | hb
      · refine ⟨by simp, rfl, ?_⟩
        intro d kind hblock
        rw [hext] at hblock
        cases hblock
      · exact (ih hrest b hb).mono (List.subset_cons_self line lines)
  | case4 line lines d kind hext hb =>
    rw [ofLines_unterminated hext hb] at h
    cases h
  | case5 line lines d kind hext block rest hb ih =>
    rw [ofLines_block hext hb] at h
    have hlines : line :: lines = block ++ rest := Delimiter.eq_of_block? hb
    cases hrest : ofLines rest with
    | error fault => rw [hrest] at h; cases h
    | ok others =>
      rw [hrest] at h
      cases h
      intro b hmem
      rcases List.mem_cons.1 hmem with rfl | hmem
      · refine ⟨?_, ?_, ?_⟩
        · rw [hlines]
          exact List.subset_append_left block rest
        · cases block with
          | nil => exact absurd rfl (Delimiter.ne_nil_of_block? hb)
          | cons first others =>
            rw [List.cons_append, List.cons.injEq] at hlines
            rw [hlines.1]
            rfl
        · intro d' kind' hblock
          rw [hext] at hblock
          cases hblock
          exact Delimiter.closed_of_block? hb
      · rw [hlines]
        exact (ih hrest b hmem).mono (List.subset_append_right block rest)

theorem Line.not_mem_of_mem_ofSource {source : Text} {line : Line} (h : line ∈ ofSource source) :
    '\n' ∉ line.text := by
  have hmem : line.text ∈ source.lines := by
    rw [← map_text_ofSource]
    exact List.mem_map_of_mem h
  exact Text.not_mem_of_mem_lines hmem

theorem Text.not_mem_getD_isPrefixOf? {p t : Text} {c : Char} (h : c ∉ t) :
    c ∉ (p.isPrefixOf? t).getD t := by
  cases hp : p.isPrefixOf? t with
  | none => exact h
  | some rest =>
    rw [← List.isPrefixOf?_eq_some_iff_append_eq.1 hp] at h
    exact fun hc => h (List.mem_append_right p hc)

theorem Reader.not_mem_tags {c : Char} {text t : Text} (h : c ∉ text) (ht : t ∈ tags text) : c ∉ t := by
  obtain ⟨piece, hpiece, htag⟩ := List.mem_filterMap.1 ht
  intro hc
  rw [tag?] at htag
  split at htag
  · cases htag
  · obtain rfl := Option.some.inj htag
    have hc' := Text.mem_of_mem_trim (Text.mem_of_mem_dropEnd (Text.mem_of_mem_trim hc))
    exact h (Text.mem_of_mem_splitOn hpiece hc').1

theorem Reader.not_mem_names {c : Char} {list t : Text} (h : c ∉ list) (ht : t ∈ names list) :
    c ∉ t := by
  obtain ⟨piece, hpiece, hname⟩ := List.mem_filterMap.1 ht
  intro hc
  split at hname
  · cases hname
  · obtain rfl := Option.some.inj hname
    exact h (Text.mem_of_mem_splitOn hpiece (Text.mem_of_mem_trim hc)).1

/-- The lines of a union are joined by spaces, so no line break gets into its name and its tags. -/
theorem Reader.isDeclared_union {header : Line} {block : List Line} {c : Construct}
    (hblock : ∀ l ∈ block, '\n' ∉ l.text) (h : union header block = .ok c) : c.IsDeclared := by
  have htext : '\n' ∉ List.intercalate " " (block.map fun line => line.text.trim) := by
    refine Text.not_mem_intercalate (by decide) ?_
    intro t ht
    obtain ⟨line, hline, rfl⟩ := List.mem_map.1 ht
    exact fun hc => hblock line hline (Text.mem_of_mem_trim hc)
  have hdecl := Text.not_mem_getD_isPrefixOf? (p := unionKeyword) htext
  rw [union] at h
  split at h
  · cases h
  · rename_i name rest hcut
    rw [Text.eq_of_cutAt? hcut, List.mem_append, List.mem_cons, not_or, not_or] at hdecl
    split at h
    · cases h
    · cases h
      exact ⟨fun hc => hdecl.1 (Text.mem_of_mem_trim hc), fun t ht => not_mem_tags hdecl.2.2 ht⟩

theorem Reader.isDeclared_exportList {line : Line} (h : '\n' ∉ line.text) :
    (exportList line).IsDeclared := by
  have htrim : '\n' ∉ line.text.trim := fun hc => h (Text.mem_of_mem_trim hc)
  exact fun t ht => not_mem_names (Text.not_mem_getD_isPrefixOf? htrim) ht

theorem SourceBlock.isDeclared_typeDefinition {source : Text} {b : SourceBlock}
    (hfrom : b.IsFrom (Line.ofSource source)) (hkind : b.header.kind = .typeDefinition) :
    (Construct.typeDefinition (Line.unlines b.lines)).IsDeclared := by
  have hclosed : Delimiter.brace.Closed b.lines := by
    refine hfrom.closed .brace .typeDefinition ?_
    rw [hkind]
    rfl
  have hlines : (Line.unlines b.lines).lines = b.lines.map Line.text :=
    Text.lines_unlines_map (fun _ hline => Line.not_mem_of_mem_ofSource (hfrom.subset hline))
      hclosed.ne_nil
  have hsame : b.lines.map Line.text = (Line.ofSource (Line.unlines b.lines)).map Line.text := by
    rw [Line.map_text_ofSource, hlines]
  refine ⟨?_, hclosed.congr hsame⟩
  have hheader := hfrom.header
  cases hb : b.lines with
  | nil => exact absurd hb hclosed.ne_nil
  | cons first rest =>
    rw [hb, List.head?_cons] at hheader
    rw [hb] at hsame
    obtain ⟨line, lines, hline, htext, -⟩ := List.map_eq_cons_iff.1 hsame.symm
    rw [hline, List.head?_cons, Option.map_some, Line.kind_congr htext, Option.some.inj hheader, hkind]

theorem Reader.exists_eq_function {isPinned : Bool} {header : Line} {block : List Line} {c : Construct}
    (h : function ⟨[]⟩ isPinned header block = .ok c) : ∃ stub, c = .function stub := by
  rw [function] at h
  split at h
  · cases h
  · rename_i stub _
    refine ⟨stub, ?_⟩
    rw [PreviousOutput.resolve, PreviousOutput.function?_nil, ite_self] at h
    exact (Except.ok.inj h).symm

/-- What a source declares is fit for an output, and only functions are pinned. -/
theorem Declares.isDeclared {source : Text} {ds : List Declaration} (h : Declares source ds) :
    ∀ d ∈ ds, d.construct.IsDeclared ∧ (d.isPinned = true → ∃ stub, d.construct = .function stub) := by
  obtain ⟨blocks, hblocks, hds⟩ := h
  have hfrom := SourceBlock.isFrom_of_ofLines hblocks
  clear hblocks
  intro d hd
  obtain ⟨b, hb, hdecl⟩ := exists_of_forall₂_of_mem hds hd
  have hbreak : ∀ l ∈ b.lines, '\n' ∉ l.text := fun l hl =>
    Line.not_mem_of_mem_ofSource ((hfrom b hb).subset hl)
  have hheader : '\n' ∉ b.header.text := hbreak b.header (List.mem_of_mem_head? (hfrom b hb).header)
  obtain ⟨c, hc, rfl⟩ : ∃ c, b.construct ⟨[]⟩ = .ok c ∧ d = ⟨b.header.kind == .pinnedFunction, c⟩ := by
    rw [SourceBlock.declaration?] at hdecl
    split at hdecl
    · rename_i c hc
      exact ⟨c, hc, (Option.some.inj hdecl).symm⟩
    · cases hdecl
  rw [SourceBlock.construct] at hc
  cases hkind : b.header.kind with
  | pinnedFunction =>
    rw [hkind] at hc
    obtain ⟨stub, rfl⟩ := Reader.exists_eq_function hc
    exact ⟨trivial, fun _ => ⟨stub, rfl⟩⟩
  | function =>
    rw [hkind] at hc
    obtain ⟨stub, rfl⟩ := Reader.exists_eq_function hc
    exact ⟨trivial, fun _ => ⟨stub, rfl⟩⟩
  | unionType =>
    rw [hkind] at hc
    exact ⟨Reader.isDeclared_union hbreak hc, nofun⟩
  | typeDefinition =>
    rw [hkind] at hc
    cases hc
    exact ⟨SourceBlock.isDeclared_typeDefinition (hfrom b hb) hkind, nofun⟩
  | _ =>
    rw [hkind] at hc
    cases hc
    exact ⟨Reader.isDeclared_exportList hheader, nofun⟩

end StubCompiler
