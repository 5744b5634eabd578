import StubCompiler.Proofs.Causality
import StubCompiler.Proofs.Text

/-!
# Replies in fences

Taking a fence off gives back exactly the text that was put into it: blanks at its end, empty lines and
lines that look like fences are parts of the text.  A run sees nothing of a reply but its block
(`run_generateFrom_congr`), so it goes the same way whether the service puts its texts into fences or
not (`generateWith_fenced`).
-/

namespace StubCompiler

namespace Reply

open Text

theorem unfence_fenced {info t w : Text} (hinfo : '\n' ∉ info) (hw : w.isBlankText = true) :
    unfence (fenced info t w) = t := by
  have hfence : '\n' ∉ fence ++ info := by
    rw [List.mem_append, not_or]
    exact ⟨by decide, hinfo⟩
  have hparts : fenced info t w = (fence ++ info) ++ '\n' :: (t ++ '\n' :: fence) ++ w := by
    have hbreak : ("\n" : Text) = ['\n'] := rfl
    simp [fenced, hbreak]
  have hend : trimEnd (fenced info t w) = (fence ++ info) ++ '\n' :: (t ++ '\n' :: fence) := by
    have hlast : (fence ++ info) ++ '\n' :: (t ++ '\n' :: fence) =
        (fence ++ info ++ '\n' :: (t ++ "\n``")) ++ ['`'] := by
      simp [fence]
    rw [hparts, trimEnd, dropEnd_append (List.all_eq_true.1 hw)]
    refine dropEnd_eq_self fun c hc => ?_
    rw [hlast, List.getLast?_concat] at hc
    obtain rfl : '`' = c := Option.some.inj hc
    decide
  -- The fence is on lines of its own, so the lines between are those of the text.
  have hlines : (trimEnd (fenced info t w)).lines = (fence ++ info) :: (t.lines ++ [fence]) := by
    rw [hend, lines_cons_newline hfence, lines_append_newline, lines_of_not_mem (t := fence) (by decide)]
  have hprefix : fence.isPrefixOf (fenced info t w) = true := by
    rw [hparts]
    simp
  rw [unfence, if_pos hprefix, hlines, List.tail_cons, List.dropLast_concat, unlines_lines]

theorem unfence_eq_self {t : Text} (h : fence.isPrefixOf t = false) : unfence t = t := by
  rw [unfence, h]
  rfl

/-- The second reply is the first, or it has the text of the first in a fence. -/
inductive MayFence : Reply → Reply → Prop
  | same (reply : Reply) : MayFence reply reply
  | fenced {t : Text} (info w : Text) (text : fence.isPrefixOf t = false) (info_line : '\n' ∉ info)
      (blank : w.isBlankText = true) : MayFence (.ok (some t)) (.ok (some (fenced info t w)))

theorem MayFence.map_block_eq {x y : Reply} (h : MayFence x y) : x.map block = y.map block := by
  cases h with
  | same => rfl
  | fenced info w htext hinfo hw =>
    have hbody := (unfence_eq_self htext).trans (unfence_fenced hinfo hw).symm
    simp only [Except.map, block, Option.getD_some, hbody]

theorem eq_error_or_block_eq {x y : Reply} (h : x.map block = y.map block) :
    (∃ cause, x = .error cause ∧ y = .error cause) ∨
      ∃ content content', x = .ok content ∧ y = .ok content' ∧ block content = block content' := by
  cases x with
  | error cause =>
    cases y with
    | error cause' =>
      cases h
      exact Or.inl ⟨cause, rfl, rfl⟩
    | ok content' => cases h
  | ok content =>
    cases y with
    | error cause' => cases h
    | ok content' => exact Or.inr ⟨content, content', rfl, rfl, Except.ok.inj h⟩

end Reply

/-! ### Two runs -/

/-- The answers come from the same requests to the same blocks, or to the same errors. -/
def Script.SameBlocks : List (Request → Reply) → List (Request → Reply) → Prop :=
  List.Forall₂ fun a b => ∀ r, (a r).map Reply.block = (b r).map Reply.block

theorem Script.SameBlocks.headD {answers answers' : List (Request → Reply)}
    (h : SameBlocks answers answers') (r : Request) :
    (answers.headD echo r).map Reply.block = (answers'.headD echo r).map Reply.block := by
  cases h with
  | nil => rfl
  | cons hfirst _ => exact hfirst r

theorem Script.SameBlocks.tail {answers answers' : List (Request → Reply)}
    (h : SameBlocks answers answers') : SameBlocks answers.tail answers'.tail := by
  cases h with
  | nil => exact List.Forall₂.nil
  | cons _ hrest => exact hrest

/-- Two runs whose answers have the same blocks end alike and send the same requests. -/
theorem run_generateFrom_congr {answers answers' : List (Request → Reply)}
    (h : Script.SameBlocks answers answers') (done : Generated) (program : Program)
    (sent : List Request) :
    let run := fun answers => (generateFrom Script.complete done program).run ⟨answers, sent⟩
    (run answers).1 = (run answers').1 ∧ (run answers).2.sent = (run answers').2.sent := by
  -- Both runs have written the same blocks so far, so the next requests are equal.
  induction program generalizing done answers answers' sent with
  | nil => exact ⟨rfl, rfl⟩
  | cons c program ih =>
    intro run
    cases hb : c.block? with
    | some text =>
      simp only [run, run_generateFrom_text hb]
      exact ih h (done.add c text) sent
    | none =>
      obtain ⟨stub, rfl⟩ := Construct.eq_function_of_block? hb
      rcases Reply.eq_error_or_block_eq (h.headD (Request.ofStub stub done.blocks)) with
        ⟨cause, hr, hr'⟩ | ⟨content, content', hr, hr', hblock⟩
      · simp only [run]
        rw [run_generateFrom_error hr, run_generateFrom_error hr']
        exact ⟨rfl, rfl⟩
      · simp only [run]
        rw [run_generateFrom_ok hr, run_generateFrom_ok hr', hblock]
        exact ih h.tail (done.add (.function stub) (Reply.block content')) _

/-- Whether the service puts its texts into fences or not makes no difference to the result of a
generation and to the requests. -/
theorem generateWith_fenced {answers answers' : List (Request → Reply)}
    (h : List.Forall₂ (fun a b => ∀ r, Reply.MayFence (a r) (b r)) answers answers')
    (program : Program) : generateWith answers program = generateWith answers' program := by
  have hblocks : Script.SameBlocks answers answers' := h.imp fun _ _ hab r => (hab r).map_block_eq
  obtain ⟨hresult, hsent⟩ := run_generateFrom_congr hblocks {} program []
  rw [generateWith_eq, generateWith_eq, hresult, hsent]

/-- A text with a fence line and an empty line at its end, a blank text, and no content. -/
theorem generateWith_fenced_of_inner_fence :
    let stub (name : Text) : Stub := ⟨name, [], "void", []⟩
    let program : Program := [.function (stub "f"), .function (stub "main"), .function (stub "g")]
    let text : Text := "function f(): void \x7b\n```\n\x7d\n"
    let plain : List Reply := [.ok (some text), .ok (some " \n"), .ok none]
    let wrapped : List Reply :=
      [.ok (some (Reply.fenced "ts" text " \n")), .ok (some (Reply.fenced [] " \n" "\t")), .ok none]
    let run := fun replies : List Reply => generateWith (replies.map fun reply _ => reply) program
    run plain = run wrapped ∧ (run wrapped).1.map (fun g => (g.blocks, g.report.emptyResponses)) =
      .ok ([text, [], [], entryCall], ["main", "g"]) := by
  intro stub program text plain wrapped run
  have htext : Reply.fence.isPrefixOf text = false := by decide
  have hblank : Reply.fence.isPrefixOf " \n" = false := by decide
  have hfenced : List.Forall₂ Reply.MayFence plain wrapped :=
    .cons (.fenced "ts" " \n" htext (by decide) (by decide))
      (.cons (.fenced [] "\t" hblank (by decide) (by decide)) (.cons (.same _) .nil))
  have hanswers : List.Forall₂ (fun a b : Request → Reply => ∀ r, Reply.MayFence (a r) (b r))
      (plain.map fun reply _ => reply) (wrapped.map fun reply _ => reply) := by
    rw [List.forall₂_map_left_iff, List.forall₂_map_right_iff]
    exact hfenced.imp fun _ _ h _ => h
  exact ⟨generateWith_fenced hanswers program, by decide +kernel⟩

end StubCompiler
