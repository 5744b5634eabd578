import StubCompiler.Proofs.Outcome

/-!
# What the last output can change

The last output has a say in one thing only: whether a function that is declared pinned keeps a body,
gets one, or cannot be looked up.  Two readings of one source against two outputs therefore find the same
blocks, complain about the same lines of the source, and give every construct the same stub.  If the
outputs agree on the functions that are declared pinned, the readings are the same.
-/

namespace StubCompiler

/-- The error was met in the last output. -/
def SyntaxError.isPinning : SyntaxError → Bool
  | .inSource _ => false
  | .pinning .. => true

/-! ### One block -/

namespace SourceBlock

def stub (b : SourceBlock) : Except Fault Stub := Header.stub b.header b.lines.tail.dropLast

theorem construct_of_kind_ne {b : SourceBlock} (h : b.header.kind ≠ .pinnedFunction)
    (p q : PreviousOutput) : b.construct p = b.construct q := by
  rw [construct, construct]
  cases hkind : b.header.kind with
  | pinnedFunction => exact absurd hkind h
  | function =>
    dsimp only
    rw [Reader.function, Reader.function]
    cases Header.stub b.header b.lines.tail.dropLast <;> rfl
  | _ => rfl

theorem construct_of_pinned {b : SourceBlock} (h : b.header.kind = .pinnedFunction)
    (p : PreviousOutput) : b.construct p = match b.stub with
      | .error fault => .error (.inSource fault)
      | .ok stub => p.resolve b.header stub := by
  rw [construct, h]
  rfl

end SourceBlock

theorem PreviousOutput.resolve_congr {p q : PreviousOutput} {stub : Stub}
    (h : p.function? stub.name = q.function? stub.name) (header : Line) :
    p.resolve header stub = q.resolve header stub := by
  rw [resolve, resolve, h]

/-- What comes of a stub is a function with that stub, or an error of the last output. -/
theorem PreviousOutput.resolve_eq (p : PreviousOutput) (header : Line) (stub : Stub) :
    (∃ c, p.resolve header stub = .ok c ∧ c.stub? = some stub) ∨
      ∃ error, p.resolve header stub = .error error ∧ error.isPinning = true := by
  rw [resolve]
  cases p.function? stub.name with
  | error cause => exact Or.inr ⟨_, rfl, rfl⟩
  | ok found =>
    cases found with
    | none => exact Or.inl ⟨_, rfl, rfl⟩
    | some body => exact Or.inl ⟨_, rfl, rfl⟩

namespace SourceBlock

/-- If two outputs agree on the function that the block declares pinned, it stands for the same in
both. -/
theorem construct_congr {b : SourceBlock} {p q : PreviousOutput}
    (h : b.header.kind = .pinnedFunction → ∀ stub, b.stub = .ok stub →
      p.function? stub.name = q.function? stub.name) : b.construct p = b.construct q := by
  by_cases hkind : b.header.kind = .pinnedFunction
  · rw [construct_of_pinned hkind, construct_of_pinned hkind]
    cases hstub : b.stub with
    | error fault => rfl
    | ok stub => exact PreviousOutput.resolve_congr (h hkind stub hstub) b.header
  · exact construct_of_kind_ne hkind p q

/-- The construct of a pinned block has the stub of the source. -/
theorem exists_stub_of_construct {b : SourceBlock} (hkind : b.header.kind = .pinnedFunction)
    {p : PreviousOutput} {c : Construct} (h : b.construct p = .ok c) :
    ∃ stub, b.stub = .ok stub ∧ c.stub? = some stub := by
  rw [construct_of_pinned hkind] at h
  cases hstub : b.stub with
  | error fault =>
    rw [hstub] at h
    cases h
  | ok stub =>
    rw [hstub] at h
    dsimp only at h
    rcases p.resolve_eq b.header stub with ⟨c', hc', hstub'⟩ | ⟨error, herror, -⟩
    · obtain rfl : c' = c := Except.ok.inj (hc'.symm.trans h)
      exact ⟨stub, rfl, hstub'⟩
    · rw [herror] at h
      cases h

/-- Errors of the source do not depend on the last output. -/
theorem filter_errors_construct (b : SourceBlock) (p q : PreviousOutput) :
    (Reader.errors [b.construct p]).filter (!·.isPinning) =
      (Reader.errors [b.construct q]).filter (!·.isPinning) := by
  by_cases hkind : b.header.kind = .pinnedFunction
  · rw [construct_of_pinned hkind, construct_of_pinned hkind]
    cases b.stub with
    | error fault => rfl
    | ok stub =>
      -- A stub that can be read has no error of the source, whatever is found for it.
      have hnone : ∀ r : PreviousOutput,
          (Reader.errors [r.resolve b.header stub]).filter (!·.isPinning) = [] := by
        intro r
        rcases r.resolve_eq b.header stub with ⟨c, hc, -⟩ | ⟨error, herror, hpinning⟩
        · rw [hc]
          rfl
        · rw [herror]
          simp [hpinning]
      rw [hnone p, hnone q]
  · rw [construct_of_kind_ne hkind p q]

end SourceBlock

/-! ### All blocks -/

namespace Reader

theorem errors_cons (result : Except SyntaxError Construct)
    (results : List (Except SyntaxError Construct)) :
    errors (result :: results) = errors [result] ++ errors results := by
  cases result <;> simp

theorem filter_errors_map_construct (p q : PreviousOutput) (blocks : List SourceBlock) :
    (errors (blocks.map (SourceBlock.construct p))).filter (!·.isPinning) =
      (errors (blocks.map (SourceBlock.construct q))).filter (!·.isPinning) := by
  induction blocks with
  | nil => rfl
  | cons b blocks ih =>
    rw [List.map_cons, List.map_cons, errors_cons (b.construct p), errors_cons (b.construct q),
      List.filter_append, List.filter_append, ih, b.filter_errors_construct p q]

theorem forall₂_construct {source previous : Text} {blocks : List SourceBlock} {program : Program}
    (h : Scan (Line.ofSource source) blocks none) (hread : readProgram source previous = .ok program) :
    List.Forall₂ (fun b c => b.construct (.ofText previous) = .ok c) blocks program := by
  obtain ⟨found, hfound, hmap⟩ := readProgram_eq_ok_iff.1 hread
  rw [h.ofLines_eq] at hfound
  obtain rfl : blocks = found := Except.ok.inj hfound
  rw [← List.forall₂_eq_eq_eq, List.forall₂_map_left_iff, List.forall₂_map_right_iff] at hmap
  exact hmap

end Reader

theorem exists_getElem?_of_forall₂ {α β : Type} {R : α → β → Prop} {xs : List α} {ys : List β}
    (h : List.Forall₂ R xs ys) {i : Nat} {x : α} (hx : xs[i]? = some x) :
    ∃ y, ys[i]? = some y ∧ R x y := by
  induction h generalizing i with
  | nil => simp at hx
  | @cons a b xs ys hab _ ih =>
    cases i with
    | zero =>
      obtain rfl : a = x := by simpa using hx
      exact ⟨b, rfl, hab⟩
    | succ i =>
      rw [List.getElem?_cons_succ] at hx ⊢
      exact ih hx

open Reader PreviousOutput in
/-- The last output has influence through its functions that the source declares pinned, and no other.
Whatever two outputs hold, the source fails on a block without an end with both or with neither, has the
same errors of its own, and declares the same stubs; with outputs that agree on the pinned functions it
reads the same. -/
theorem readProgram_influence (source p q : Text) :
    ∃ blocks stop, Scan (Line.ofSource source) blocks stop ∧
      (∀ kind line, IsUnterminated (readProgram source p) kind line ↔
        IsUnterminated (readProgram source q) kind line) ∧
      (errorsOf (readProgram source p)).filter (!·.isPinning) =
        (errorsOf (readProgram source q)).filter (!·.isPinning) ∧
      (∀ left right, readProgram source p = .ok left → readProgram source q = .ok right →
        left.length = blocks.length ∧ right.length = blocks.length ∧
          ∀ (i : Nat) b, blocks[i]? = some b → ∃ x y, left[i]? = some x ∧ right[i]? = some y ∧
            (b.header.kind ≠ .pinnedFunction → x = y) ∧
            (b.header.kind = .pinnedFunction →
              ∃ stub, b.stub = .ok stub ∧ x.stub? = some stub ∧ y.stub? = some stub)) ∧
      ((∀ b ∈ blocks, b.header.kind = .pinnedFunction → ∀ stub, b.stub = .ok stub →
          (ofText p).function? stub.name = (ofText q).function? stub.name) →
        readProgram source p = readProgram source q) ∧
      ((∀ b ∈ blocks, b.header.kind ≠ .pinnedFunction) →
        readProgram source p = readProgram source q) := by
  obtain ⟨blocks, stop, hscan⟩ := Scan.exists_scan (Line.ofSource source)
  have hsame : (∀ b ∈ blocks, b.header.kind = .pinnedFunction → ∀ stub, b.stub = .ok stub →
      (ofText p).function? stub.name = (ofText q).function? stub.name) →
      readProgram source p = readProgram source q := by
    intro hagree
    have hmap : blocks.map (SourceBlock.construct (ofText p)) =
        blocks.map (SourceBlock.construct (ofText q)) :=
      List.map_congr_left fun b hb => SourceBlock.construct_congr (hagree b hb)
    rw [readProgram_eq hscan, readProgram_eq hscan, hmap]
  refine ⟨blocks, stop, hscan, ?_, ?_, ?_, hsame, ?_⟩
  · intro kind line
    rw [hscan.isUnterminated_iff, hscan.isUnterminated_iff]
  · rw [readProgram_eq hscan, readProgram_eq hscan]
    cases stop with
    | some fault => rfl
    | none =>
      dsimp only
      rw [errorsOf_collect, errorsOf_collect]
      exact filter_errors_map_construct (ofText p) (ofText q) blocks
  · intro left right hp hq
    have hend : stop = none := by
      refine (hscan.stop_eq_none_iff p).2 ?_
      intro kind line hfail
      rw [IsUnterminated, hp] at hfail
      cases hfail
    subst hend
    have hleft := forall₂_construct hscan hp
    have hright := forall₂_construct hscan hq
    refine ⟨hleft.length_eq.symm, hright.length_eq.symm, ?_⟩
    intro i b hb
    obtain ⟨x, hx, hbx⟩ := exists_getElem?_of_forall₂ hleft hb
    obtain ⟨y, hy, hby⟩ := exists_getElem?_of_forall₂ hright hb
    refine ⟨x, y, hx, hy, ?_, ?_⟩
    · intro hkind
      rw [SourceBlock.construct_of_kind_ne hkind (ofText p) (ofText q), hby] at hbx
      exact (Except.ok.inj hbx).symm
    · intro hkind
      obtain ⟨stub, hstub, hxs⟩ := SourceBlock.exists_stub_of_construct hkind hbx
      obtain ⟨stub', hstub', hys⟩ := SourceBlock.exists_stub_of_construct hkind hby
      obtain rfl : stub = stub' := Except.ok.inj (hstub.symm.trans hstub')
      exact ⟨stub, hstub, hxs, hys⟩
  · intro hnone
    exact hsame fun b hb hkind => absurd hkind (hnone b hb)

end StubCompiler
