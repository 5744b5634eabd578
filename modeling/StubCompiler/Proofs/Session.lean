import StubCompiler.Compilation
import StubCompiler.Proofs.Writing

/-!
# Sessions

A session compiles one source again and again, each time with the output of the time before.  Once a
function that is declared pinned has a text, every later compilation finds that text under its name,
takes it over, and does not ask for the function again.
-/

namespace StubCompiler

open PreviousOutput

/-- A compilation with prepared answers: how it ended, and what was asked. -/
structure Compilation where
  answers : List (Request → Reply)
  result : Except CompileError Generated
  sent : List Request

def compileWith (answers : List (Request → Reply)) (source previous : Text) : Compilation :=
  let (result, script) := (compile Script.complete source previous).run ⟨answers, []⟩
  ⟨answers, result, script.sent⟩

namespace Compilation

def replies (c : Compilation) : List Reply := Script.replies c.answers c.sent

def IsWellBehaved (c : Compilation) : Prop :=
  List.Forall₂ (fun r reply => Reply.IsWellBehaved r.function reply) c.sent c.replies

/-- The output that the next compilation finds; a failed one leaves the last output alone. -/
def next (c : Compilation) (previous : Text) : Text :=
  match c.result with
  | .ok g => g.code
  | .error _ => previous

end Compilation

/-- One compilation for each list of answers. -/
def session (source : Text) : Text → List (List (Request → Reply)) → List Compilation
  | _, [] => []
  | previous, answers :: steps =>
    let c := compileWith answers source previous
    c :: session source (c.next previous) steps

/-- The functions that are not declared pinned, each with its place in the source; places are counted
from `n`. -/
def Declaration.liveFrom (n : Nat) : List Declaration → List (Nat × Stub)
  | [] => []
  | ⟨false, .function stub⟩ :: ds => (n, stub) :: liveFrom (n + 1) ds
  | _ :: ds => liveFrom (n + 1) ds

theorem session_cons (source previous : Text) (answers : List (Request → Reply))
    (steps : List (List (Request → Reply))) :
    session source previous (answers :: steps) =
      compileWith answers source previous ::
        session source ((compileWith answers source previous).next previous) steps := rfl

/-! ### One compilation -/

theorem compileWith_eq {source previous : Text} {program : Program}
    (h : readProgram source previous = .ok program) (answers : List (Request → Reply)) :
    compileWith answers source previous =
      ⟨answers, (transcript answers program).result.mapError .generation,
        (transcript answers program).sent⟩ := by
  simp only [compileWith, compile, h, StateT.run_bind, transcript, generateWith]
  generalize (generate Script.complete program).run ⟨answers, []⟩ = outcome
  obtain ⟨result, s⟩ := outcome
  cases result <;> rfl

/-- The compilation succeeded with the output `g`, in which the constructs have the given texts. -/
structure Compilation.Wrote (c : Compilation) (g : Generated) (texts : List Text) : Prop where
  result : c.result = .ok g
  blocks : g.blocks = texts ++ if g.report.hasEntryPoint then [entryCall] else []

/-- The requests ask for the functions, one each, and show the texts before their places. -/
def Compilation.AsksFor (c : Compilation) (functions : List (Nat × Stub)) (texts : List Text) : Prop :=
  List.Forall₂ (fun r (place, stub) => r.Asks stub (texts.take place)) c.sent functions

theorem Compilation.Wrote.isOutputOf {c : Compilation} {g : Generated} {texts : List Text}
    (h : c.Wrote g texts) : IsOutputOf g.code texts := by
  refine ⟨g.report.hasEntryPoint, ?_⟩
  rw [Generated.code, h.blocks]

theorem compileWith_wrote {source previous : Text} {program : Program}
    (h : readProgram source previous = .ok program) {answers : List (Request → Reply)}
    (hreplies : (compileWith answers source previous).IsWellBehaved) :
    ∃ g texts, (compileWith answers source previous).Wrote g texts ∧
      (compileWith answers source previous).AsksFor program.functions texts ∧
      List.Forall₂ Construct.IsWrittenAs program texts := by
  rw [compileWith_eq h] at hreplies ⊢
  obtain ⟨g, hg, hwritten⟩ := Transcript.IsWellBehaved.exists_ok hreplies
  obtain ⟨hblocks, -, hasks⟩ := transcript_of_ok hg
  refine ⟨g, (transcript answers program).texts, ⟨?_, hblocks⟩, hasks, hwritten⟩
  rw [hg]
  rfl

/-! ### Resolving in an output -/

theorem Declaration.resolve_cases {previous : PreviousOutput} {d : Declaration} {c : Construct}
    (h : d.resolve previous = .ok c) :
    c = d.construct ∨ ∃ stub body, d = ⟨true, .function stub⟩ ∧ c = .pinned stub body ∧
      previous.function? stub.name = .ok (some body) := by
  unfold resolve at h
  split at h
  · rename_i stub
    split at h
    · rename_i body hfound
      exact Or.inr ⟨stub, body, rfl, (Except.ok.inj h).symm, hfound⟩
    · exact Or.inl (Except.ok.inj h).symm
    · cases h
  · exact Or.inl (Except.ok.inj h).symm

theorem Declaration.functionName?_eq {previous : PreviousOutput} {d : Declaration} {c : Construct}
    (h : d.resolve previous = .ok c) : c.functionName? = d.construct.functionName? := by
  rcases resolve_cases h with rfl | ⟨stub, body, rfl, rfl, -⟩
  · rfl
  · rfl

theorem Declaration.filterMap_functionName? {previous : PreviousOutput} {ds : List Declaration}
    {program : Program} (h : List.Forall₂ (fun d c => d.resolve previous = .ok c) ds program) :
    program.filterMap Construct.functionName? = ds.filterMap fun d => d.construct.functionName? := by
  induction h with
  | nil => rfl
  | cons hc _ ih => rw [List.filterMap_cons, List.filterMap_cons, functionName?_eq hc, ih]

/-- The texts of a program are texts of its declarations: a body that was found is a function block. -/
theorem Declaration.areWrittenAs_of_resolve {previous : Text} {ds : List Declaration}
    {program : Program} {texts : List Text}
    (hds : List.Forall₂ (fun d c => d.resolve (.ofText previous) = .ok c) ds program)
    (h : List.Forall₂ Construct.IsWrittenAs program texts) : AreWrittenAs ds texts := by
  induction hds generalizing texts with
  | nil =>
    cases h
    exact .nil
  | cons hc _ ih =>
    cases h with
    | cons ht hrest =>
      refine .cons ?_ (ih hrest)
      rcases resolve_cases hc with rfl | ⟨stub, body, rfl, rfl, hfound⟩
      · exact ht
      · obtain rfl := Option.some.inj ht
        exact isFunctionBlock_of_search (fun l hl => Line.not_mem_of_mem_ofSource hl) hfound

/-- The construct that a declaration resolves to when its text is known. -/
def Declaration.settled (d : Declaration) (t : Text) : Construct :=
  match d with
  | ⟨true, .function stub⟩ => .pinned stub t
  | ⟨_, c⟩ => c

theorem Declaration.resolve_or_settled (d : Declaration) (t : Text) :
    (∃ stub, d = ⟨true, .function stub⟩) ∨
      d.settled t = d.construct ∧ ∀ previous, d.resolve previous = .ok d.construct := by
  obtain ⟨isPinned, c⟩ := d
  cases c with
  | function stub =>
    cases isPinned with
    | true => exact Or.inl ⟨stub, rfl⟩
    | false => exact Or.inr ⟨rfl, fun _ => rfl⟩
  | _ => cases isPinned <;> exact Or.inr ⟨rfl, fun _ => rfl⟩

/-- No two functions have the same name, and no search is stopped by a type definition. -/
structure Declaration.AreApart (ds : List Declaration) : Prop where
  nodup : (ds.filterMap fun d => d.construct.functionName?).Nodup
  quiet : ∀ d ∈ ds, ∀ body, d.construct = .typeDefinition body → d.construct.headerName = none

theorem Declaration.AreApart.tail {d : Declaration} {ds : List Declaration} (h : AreApart (d :: ds)) :
    AreApart ds := by
  refine ⟨?_, fun e he => h.quiet e (List.mem_cons_of_mem d he)⟩
  have hnodup := h.nodup
  rw [List.filterMap_cons] at hnodup
  split at hnodup
  · exact hnodup
  · exact (List.nodup_cons.1 hnodup).2

theorem Declaration.AreApart.headerName_ne {d e : Declaration} {ds : List Declaration}
    (h : AreApart (d :: ds)) (hdecl : d.construct.IsDeclared) (he : e ∈ ds) {stub : Stub}
    (hstub : e.construct = .function stub) :
    d.construct.headerName ≠ some none ∧ d.construct.headerName ≠ some (some stub.name) := by
  cases hd : d.construct with
  | function other =>
    refine ⟨by simp [Construct.headerName], ?_⟩
    intro hname
    have hsame : other.name = stub.name := by simpa [Construct.headerName] using hname
    have hnodup := h.nodup
    have hown : d.construct.functionName? = some other.name := by rw [hd]; rfl
    rw [List.filterMap_cons, hown] at hnodup
    refine (List.nodup_cons.1 hnodup).1 (List.mem_filterMap.2 ⟨e, he, ?_⟩)
    rw [hstub, hsame]
    rfl
  | pinned other body =>
    rw [hd] at hdecl
    exact hdecl.elim
  | typeDefinition body =>
    have hquiet := h.quiet d (by simp) body hd
    rw [hd] at hquiet
    rw [hquiet]
    exact ⟨nofun, nofun⟩
  | union name tags => exact ⟨nofun, nofun⟩
  | exportList names => exact ⟨nofun, nofun⟩

theorem Declaration.AreApart.find_eq {ds : List Declaration} (hds : AreApart ds)
    (hdecl : ∀ d ∈ ds, d.construct.IsDeclared) {texts : List Text} (h : AreWrittenAs ds texts) {i : Nat}
    {d : Declaration} {stub : Stub} {t : Text} (hd : ds[i]? = some d) (ht : texts[i]? = some t)
    (hstub : d.construct = .function stub) : find stub.name texts = .ok (some t) := by
  induction h generalizing i with
  | nil => simp at hd
  | @cons e u ds texts hu hrest ih =>
    have hname := (hu.isSearchable (hdecl e (by simp))).2
    cases i with
    | zero =>
      obtain rfl : e = d := by simpa using hd
      obtain rfl : u = t := by simpa using ht
      have hblock : IsFunctionBlock stub.name u := by
        rw [hstub] at hu
        exact hu
      simp [find, stops, hblock.headerName_eq, hblock.sighting_eq, Text.unlines_lines]
    | succ i =>
      -- The text of an earlier construct does not stop the search.
      rw [List.getElem?_cons_succ] at hd ht
      obtain ⟨hnone, hother⟩ := hds.headerName_ne (hdecl e (by simp)) (List.mem_of_getElem? hd) hstub
      rw [← hname] at hnone hother
      have hpass : stops stub.name u = false := by simp [stops, hnone, hother]
      rw [find_cons, hpass]
      exact ih hds.tail (fun d hd => hdecl d (List.mem_cons_of_mem e hd)) hd ht

theorem Declaration.AreApart.resolve_eq {ds : List Declaration} (hds : AreApart ds)
    (hdecl : ∀ d ∈ ds, d.construct.IsDeclared) {texts : List Text} (h : AreWrittenAs ds texts)
    {code : Text} (hcode : IsOutputOf code texts) {i : Nat} {d : Declaration} {t : Text}
    (hd : ds[i]? = some d) (ht : texts[i]? = some t) :
    d.resolve (.ofText code) = .ok (d.settled t) := by
  have hsearch : ∀ u ∈ texts, IsSearchable u :=
    Program.isSearchable_texts (List.forall_mem_map.2 hdecl) (List.forall₂_map_left_iff.2 h)
  rcases d.resolve_or_settled t with ⟨stub, rfl⟩ | ⟨hsettled, hresolve⟩
  · have hfound := function?_eq_ok hcode hsearch (hds.find_eq hdecl h hd ht rfl)
    rw [resolve, hfound]
    rfl
  · rw [hsettled, hresolve]

theorem forall₂_zipWith {α β γ : Type} {R : α → β → Prop} {S : α → γ → Prop} {f : α → β → γ}
    {xs : List α} {ys : List β} (h : List.Forall₂ R xs ys)
    (hf : ∀ (i : Nat) x y, xs[i]? = some x → ys[i]? = some y → S x (f x y)) :
    List.Forall₂ S xs (List.zipWith f xs ys) := by
  induction h with
  | nil => exact .nil
  | cons _ _ ih => exact .cons (hf 0 _ _ rfl rfl) (ih fun i x y hx hy => hf (i + 1) x y hx hy)

/-- Read against its own output, a source stands for its declarations with the texts they have. -/
theorem Declares.readProgram_settled {source : Text} {ds : List Declaration} (h : Declares source ds)
    (hds : Declaration.AreApart ds) {texts : List Text} (hwritten : Declaration.AreWrittenAs ds texts)
    {code : Text} (hcode : IsOutputOf code texts) :
    readProgram source code = .ok (List.zipWith Declaration.settled ds texts) := by
  rw [h.readProgram_eq_ok_iff]
  have hdecl : ∀ d ∈ ds, d.construct.IsDeclared := fun d hd => (h.isDeclared d hd).1
  exact forall₂_zipWith hwritten fun i d t hd ht => hds.resolve_eq hdecl hwritten hcode hd ht

theorem Declaration.functionsFrom_settled {ds : List Declaration} {texts : List Text}
    (h : AreWrittenAs ds texts) (n : Nat) :
    Program.functionsFrom n (List.zipWith settled ds texts) = liveFrom n ds := by
  induction h generalizing n with
  | nil => rfl
  | @cons d t ds texts ht _ ih =>
    obtain ⟨isPinned, c⟩ := d
    rw [List.zipWith_cons_cons]
    cases c with
    | function stub =>
      cases isPinned with
      | true => exact ih (n + 1)
      | false => exact congrArg ((n, stub) :: ·) (ih (n + 1))
    | pinned stub body => cases isPinned <;> exact ih (n + 1)
    | typeDefinition body => cases isPinned <;> exact ih (n + 1)
    | union name tags => cases isPinned <;> exact ih (n + 1)
    | exportList names => cases isPinned <;> exact ih (n + 1)

def Declaration.AgreeOnPinned (ds : List Declaration) (texts texts' : List Text) : Prop :=
  ∀ (i : Nat) d, ds[i]? = some d → d.isPinned = true → texts'[i]? = texts[i]?

theorem Declaration.areWrittenAs_of_settled {ds : List Declaration} {texts texts' : List Text}
    (h : AreWrittenAs ds texts) (hpinned : ∀ d ∈ ds, d.isPinned = true → ∃ stub, d.construct = .function stub)
    (h' : List.Forall₂ Construct.IsWrittenAs (List.zipWith settled ds texts) texts') :
    AreWrittenAs ds texts' ∧ AgreeOnPinned ds texts texts' := by
  induction h generalizing texts' with
  | nil =>
    cases h'
    exact ⟨.nil, fun i d hd => by simp at hd⟩
  | @cons d t ds texts ht _ ih =>
    cases h' with
    | @cons c t' _ texts' ht' hrest =>
      obtain ⟨hwritten, hagree⟩ := ih (fun e he => hpinned e (List.mem_cons_of_mem d he)) hrest
      have hown : d.construct.IsWrittenAs t' ∧ (d.isPinned = true → t' = t) := by
        obtain ⟨isPinned, c⟩ := d
        cases isPinned with
        | false =>
          have hsettled : settled ⟨false, c⟩ t = c := by cases c <;> rfl
          rw [hsettled] at ht'
          exact ⟨ht', nofun⟩
        | true =>
          obtain ⟨stub, rfl⟩ : ∃ stub, c = .function stub := hpinned ⟨true, c⟩ (by simp) rfl
          obtain rfl : t = t' := Option.some.inj ht'
          exact ⟨ht, fun _ => rfl⟩
      refine ⟨.cons hown.1 hwritten, ?_⟩
      intro i e he hp
      cases i with
      | zero =>
        obtain rfl : d = e := by simpa using he
        rw [List.getElem?_cons_zero, List.getElem?_cons_zero, hown.2 hp]
      | succ i =>
        rw [List.getElem?_cons_succ] at he ⊢
        rw [List.getElem?_cons_succ]
        exact hagree i e he hp

/-! ### Whole sessions -/

/-- What one compilation of a session does when the last output has the texts `texts`: it writes texts
that agree on the pinned declarations, and asks for the live functions only. -/
structure Compilation.Continues (c : Compilation) (ds : List Declaration) (texts : List Text)
    (g : Generated) (texts' : List Text) : Prop where
  wrote : c.Wrote g texts'
  written : Declaration.AreWrittenAs ds texts'
  agree : Declaration.AgreeOnPinned ds texts texts'
  asks : c.AsksFor (Declaration.liveFrom 0 ds) texts'

theorem compileWith_continues {source : Text} {ds : List Declaration} (h : Declares source ds)
    (hds : Declaration.AreApart ds) {texts : List Text} (hwritten : Declaration.AreWrittenAs ds texts)
    {code : Text} (hcode : IsOutputOf code texts) {answers : List (Request → Reply)}
    (hreplies : (compileWith answers source code).IsWellBehaved) :
    ∃ g texts', (compileWith answers source code).Continues ds texts g texts' := by
  have hread := h.readProgram_settled hds hwritten hcode
  obtain ⟨g, texts', hwrote, hasks, hprogram⟩ := compileWith_wrote hread hreplies
  have hpinned : ∀ d ∈ ds, d.isPinned = true → ∃ stub, d.construct = .function stub :=
    fun d hd => (h.isDeclared d hd).2
  obtain ⟨hwritten', hagree⟩ := Declaration.areWrittenAs_of_settled hwritten hpinned hprogram
  rw [Program.functions, Declaration.functionsFrom_settled hwritten] at hasks
  exact ⟨g, texts', hwrote, hwritten', hagree, hasks⟩

theorem Compilation.Wrote.next_eq {c : Compilation} {g : Generated} {texts : List Text}
    (h : c.Wrote g texts) (previous : Text) : c.next previous = g.code := by
  rw [next, h.result]

/-- The run lemma: from an output on, every compilation agrees with it on the pinned declarations. -/
theorem session_continues {source : Text} {ds : List Declaration} (h : Declares source ds)
    (hds : Declaration.AreApart ds) {texts : List Text} (hwritten : Declaration.AreWrittenAs ds texts)
    {code : Text} (hcode : IsOutputOf code texts) {steps : List (List (Request → Reply))}
    (hreplies : ∀ c ∈ session source code steps, c.IsWellBehaved) :
    ∀ c ∈ session source code steps, ∃ g texts', c.Continues ds texts g texts' := by
  -- Every step hands its own texts to the next one; they agree with `texts` on the pinned ones.
  induction steps generalizing texts code with
  | nil =>
    intro c hc
    cases hc
  | cons answers steps ih =>
    obtain ⟨g, texts', hfirst⟩ := compileWith_continues h hds hwritten hcode
      (hreplies (compileWith answers source code) (by simp [session]))
    have hnext := hfirst.wrote.next_eq code
    intro c hc
    rw [session_cons, hnext] at hc hreplies
    rcases List.mem_cons.1 hc with rfl | hc
    · exact ⟨g, texts', hfirst⟩
    · obtain ⟨g'', texts'', hlater⟩ := ih hfirst.written hfirst.wrote.isOutputOf
        (fun c hc => hreplies c (List.mem_cons_of_mem _ hc)) c hc
      refine ⟨g'', texts'', hlater.wrote, hlater.written, ?_, hlater.asks⟩
      intro i d hd hp
      rw [hlater.agree i d hd hp, hfirst.agree i d hd hp]

theorem Declaration.areApart_of_program {source previous : Text} {program : Program}
    {ds : List Declaration} (h : Declares source ds)
    (hds : List.Forall₂ (fun d c => d.resolve (.ofText previous) = .ok c) ds program)
    (hnames : (program.filterMap Construct.functionName?).Nodup)
    (htypes : ∀ body, .typeDefinition body ∈ program →
      ∀ line ∈ (Line.ofSource body).tail, isHeader line = false) : AreApart ds := by
  refine ⟨?_, ?_⟩
  · rw [filterMap_functionName? hds] at hnames
    exact hnames
  · intro d hd body hbody
    have hdecl := (h.isDeclared d hd).1
    rw [hbody] at hdecl ⊢
    refine Construct.headerName_typeDefinition hdecl (htypes body ?_)
    have hflip : List.Forall₂ (fun c d => d.resolve (.ofText previous) = .ok c) program ds := hds.flip
    obtain ⟨c, hc, hresolve⟩ := exists_of_forall₂_of_mem hflip hd
    rcases resolve_cases hresolve with rfl | ⟨stub, _, rfl, -, -⟩
    · rw [hbody] at hc
      exact hc
    · cases hbody

theorem Compilation.Wrote.exists_block {c : Compilation} {g : Generated} {texts : List Text}
    (h : c.Wrote g texts) {ds : List Declaration} (hwritten : Declaration.AreWrittenAs ds texts) {i : Nat}
    {d : Declaration} (hd : ds[i]? = some d) :
    ∃ block, texts[i]? = some block ∧ g.blocks[i]? = some block := by
  have hlt : i < texts.length := by
    rw [← hwritten.length_eq]
    exact (List.getElem?_eq_some_iff.1 hd).1
  refine ⟨texts[i], List.getElem?_eq_getElem hlt, ?_⟩
  rw [h.blocks, List.getElem?_append_left hlt, List.getElem?_eq_getElem hlt]

theorem Declaration.lt_of_mem_liveFrom {n : Nat} {ds : List Declaration} {f : Nat × Stub}
    (h : f ∈ liveFrom n ds) : f.1 < n + ds.length := by
  induction ds generalizing n with
  | nil => cases h
  | cons d ds ih =>
    rw [List.length_cons]
    unfold liveFrom at h
    split at h
    · cases h
    · rename_i heq
      obtain ⟨-, rfl⟩ := List.cons.inj heq
      rcases List.mem_cons.1 h with rfl | h
      · exact Nat.lt_add_of_pos_right (Nat.succ_pos _)
      · have := ih h
        omega
    · rename_i heq
      obtain ⟨-, rfl⟩ := List.cons.inj heq
      have := ih h
      omega

/-- Only the texts before the places are shown, so more of them make no difference. -/
theorem Compilation.AsksFor.append {c : Compilation} {functions : List (Nat × Stub)}
    {texts : List Text} (h : c.AsksFor functions texts) (hle : ∀ f ∈ functions, f.1 ≤ texts.length)
    (more : List Text) : c.AsksFor functions (texts ++ more) := by
  unfold AsksFor at h ⊢
  generalize c.sent = sent at h ⊢
  induction h with
  | nil => exact .nil
  | @cons r f _ _ hasks _ ih =>
    obtain ⟨place, stub⟩ := f
    have hplace : place ≤ texts.length := hle (place, stub) (by simp)
    refine .cons ?_ (ih fun f hf => hle f (List.mem_cons_of_mem _ hf))
    show r.Asks stub ((texts ++ more).take place)
    rw [List.take_append_of_le_length hplace]
    exact hasks

/-- Every compilation succeeds and writes for every pinned declaration the block that the first one
wrote, and from the second on the service is asked for the functions that are not declared pinned, in
their order, and for nothing else. -/
def Declaration.AreStableIn (ds : List Declaration) (cs : List Compilation) : Prop :=
  ∀ (k : Nat) c, cs[k]? = some c →
    ∃ g, c.result = .ok g ∧
      (∀ first, cs[0]? = some first →
        ∃ g₁, first.result = .ok g₁ ∧
          ∀ (i : Nat) d, ds[i]? = some d → d.isPinned = true →
            ∃ block, g₁.blocks[i]? = some block ∧ g.blocks[i]? = some block) ∧
      (0 < k → c.AsksFor (liveFrom 0 ds) g.blocks)

/-- A session with well-behaved replies is stable, whatever the output was that it started from. -/
theorem session_stable {source previous : Text} {program : Program}
    (hread : readProgram source previous = .ok program)
    (hnames : (program.filterMap Construct.functionName?).Nodup)
    (htypes : ∀ body, .typeDefinition body ∈ program →
      ∀ line ∈ (Line.ofSource body).tail, isHeader line = false)
    (steps : List (List (Request → Reply)))
    (hreplies : ∀ c ∈ session source previous steps, c.IsWellBehaved) :
    ∃ ds, Declares source ds ∧ ds.length = program.length ∧
      Declaration.AreStableIn ds (session source previous steps) := by
  obtain ⟨ds, hds, hprogram⟩ := exists_declares hread
  refine ⟨ds, hds, hprogram.length_eq, ?_⟩
  have hapart := Declaration.areApart_of_program hds hprogram hnames htypes
  cases steps with
  | nil =>
    intro k c hc
    simp [session] at hc
  | cons answers steps =>
    rw [session_cons] at hreplies ⊢
    have hreply := hreplies (compileWith answers source previous) (by simp)
    -- The first compilation may find bodies in any output; from its own texts on they are fixed.
    obtain ⟨g₁, texts, hfirst, -, hwritten⟩ := compileWith_wrote hread hreply
    have htexts := Declaration.areWrittenAs_of_resolve hprogram hwritten
    rw [hfirst.next_eq] at hreplies ⊢
    have hlater := session_continues hds hapart htexts hfirst.isOutputOf
      fun c hc => hreplies c (List.mem_cons_of_mem _ hc)
    intro k c hc
    cases k with
    | zero =>
      obtain rfl : compileWith answers source previous = c := by simpa using hc
      refine ⟨g₁, hfirst.result, ?_, fun hk => absurd hk (Nat.lt_irrefl 0)⟩
      intro first hfirst'
      obtain rfl : compileWith answers source previous = first := by simpa using hfirst'
      refine ⟨g₁, hfirst.result, ?_⟩
      intro i d hd _
      obtain ⟨block, -, hblock⟩ := hfirst.exists_block htexts hd
      exact ⟨block, hblock, hblock⟩
    | succ k =>
      rw [List.getElem?_cons_succ] at hc
      obtain ⟨g, texts', hnext⟩ := hlater c (List.mem_of_getElem? hc)
      refine ⟨g, hnext.wrote.result, ?_, ?_⟩
      · intro first hfirst'
        obtain rfl : compileWith answers source previous = first := by simpa using hfirst'
        refine ⟨g₁, hfirst.result, ?_⟩
        intro i d hd hp
        obtain ⟨block, htext, hblock⟩ := hfirst.exists_block htexts hd
        obtain ⟨block', htext', hblock'⟩ := hnext.wrote.exists_block hnext.written hd
        have hsame : block' = block := by
          rw [hnext.agree i d hd hp, htext] at htext'
          exact (Option.some.inj htext').symm
        exact ⟨block, hblock, by rw [hblock', hsame]⟩
      · intro _
        -- The blocks are the texts and perhaps the call of the entry point, which no request shows.
        rw [hnext.wrote.blocks]
        refine hnext.asks.append ?_ _
        intro f hf
        have hlt := Declaration.lt_of_mem_liveFrom hf
        have hlength := hnext.written.length_eq
        omega

theorem session_stable_of_three_steps :
    let source : Text :=
      "type Shade = \x7b\n  name: string;\n\x7d\npinned function a(): void \x7b\n\x7d\nfunction b(): void \x7b\n\x7d"
    let answer (body : Text) (r : Request) : Reply :=
      .ok (some ("function " ++ r.function ++ "() \x7b\n" ++ body ++ "\n\x7d"))
    let steps := [[answer "  one();", answer "  two();"], [answer "  three();"], [answer "  four();"]]
    ∃ ds, Declares source ds ∧ ds.length = 3 ∧
      Declaration.AreStableIn ds (session source [] steps) := by
  intro source answer steps
  have hread : ∃ program, readProgram source [] = .ok program ∧ program.length = 3 ∧
      (program.filterMap Construct.functionName?).Nodup ∧
      ∀ body, .typeDefinition body ∈ program →
        ∀ line ∈ (Line.ofSource body).tail, isHeader line = false := by
    refine ⟨[.typeDefinition "type Shade = \x7b\n  name: string;\n\x7d", .function ⟨"a", [], "void", []⟩,
      .function ⟨"b", [], "void", []⟩], by decide +kernel, rfl, by decide, ?_⟩
    intro body hbody
    obtain rfl : body = "type Shade = \x7b\n  name: string;\n\x7d" := by simpa using hbody
    decide
  obtain ⟨program, hprogram, hlength, hnames, htypes⟩ := hread
  have hreplies : ∀ c ∈ session source [] steps, c.IsWellBehaved := by
    unfold Compilation.IsWellBehaved
    decide +kernel
  obtain ⟨ds, hds, hds', hstable⟩ := session_stable hprogram hnames htypes steps hreplies
  exact ⟨ds, hds, hds'.trans hlength, hstable⟩

end StubCompiler
