import StubCompiler.Command.World
import StubCompiler.Proofs.Causality

/-!
# Generation in a world

A generation touches nothing of a world but its service: it takes answers and leaves calls.  What it
makes of a program is what the answers that came back make of it, with no regard to the files, the
environment or what has been printed.
-/

namespace StubCompiler

namespace World

/-! ### One request -/

def afterCalls (w : World) (calls : List Call) : World :=
  { w with answers := w.answers.drop calls.length, sent := w.sent ++ calls }

/-- The answers to calls, in the order in which they were sent. -/
def received (w : World) : List Call → List Answer
  | [] => []
  | call :: calls => w.answerTo call :: (w.afterCalls [call]).received calls

def printed (w : World) (output errors : Text) : World :=
  { w with output := w.output ++ output, errors := w.errors ++ errors }

theorem afterCalls_nil (w : World) : w.afterCalls [] = w := by
  simp [afterCalls]

theorem afterCalls_cons (w : World) (call : Call) (calls : List Call) :
    w.afterCalls (call :: calls) = (w.afterCalls [call]).afterCalls calls := by
  simp [afterCalls]

theorem run_complete (config : ServiceConfig) (r : Request) (w : World) :
    (config.complete host.send r).run w =
      match config.call r with
      | .error cause => (.error cause, w)
      | .ok call =>
        if w.isOnline then ((w.answerTo call).reply, w.afterCalls [call])
        else (.error (.transport "error sending request"), w) := by
  rw [ServiceConfig.complete]
  cases config.call r with
  | error cause => rfl
  | ok call =>
    have hsend : host.send call w = send call w := rfl
    have hdrop : w.answers.drop 1 = w.answers.tail := List.drop_one
    simp only [StateT.run_bind]
    simp only [StateT.run, hsend, send, afterCalls, List.length_singleton, hdrop]
    cases w.isOnline <;> rfl

/-- A request is answered, or it fails and the service has not heard of it. -/
theorem run_complete_cases (config : ServiceConfig) (r : Request) (w : World) :
    (∃ cause, (config.complete host.send r).run w = (.error cause, w)) ∨
      ∃ call, config.call r = .ok call ∧
        (config.complete host.send r).run w = ((w.answerTo call).reply, w.afterCalls [call]) := by
  rw [run_complete]
  cases config.call r with
  | error cause => exact Or.inl ⟨cause, rfl⟩
  | ok call =>
    dsimp only
    split
    · exact Or.inr ⟨call, rfl, rfl⟩
    · exact Or.inl ⟨_, rfl⟩

section
variable {config : ServiceConfig} {stub : Stub} {done : Generated} {w w' : World}

theorem run_generateFrom_ok {content : Option Text}
    (h : (config.complete host.send (.ofStub stub done.blocks)).run w = (.ok content, w'))
    (program : Program) :
    (generateFrom (config.complete host.send) done (.function stub :: program)).run w =
      (generateFrom (config.complete host.send) (done.add (.function stub) (Reply.block content))
        program).run w' := by
  rw [generateFrom_function, StateT.run_bind, h]
  rfl

theorem run_generateFrom_error {cause : ProviderError}
    (h : (config.complete host.send (.ofStub stub done.blocks)).run w = (.error cause, w'))
    (program : Program) :
    (generateFrom (config.complete host.send) done (.function stub :: program)).run w =
      (.error ⟨stub.name, cause⟩, w') := by
  rw [generateFrom_function, StateT.run_bind, h]
  rfl

end

/-! ### A whole run -/

/-- However a generation ends, it leaves one call for each request that reached the service; if it
succeeds, the answers that came back are all that it took. -/
theorem run_generateFrom (config : ServiceConfig) (program : Program) (done : Generated) (w : World) :
    ∃ result requests calls,
      (generateFrom (config.complete host.send) done program).run w = (result, w.afterCalls calls) ∧
      List.Forall₂ (fun r call => config.call r = .ok call) requests calls ∧
      ∀ g, result = .ok g → ∀ sent,
        (generateFrom Script.complete done program).run
            ⟨(w.received calls).map fun answer _ => answer.reply, sent⟩ =
          (.ok g, ⟨[], sent ++ requests⟩) := by
  induction program generalizing done w with
  | nil =>
    refine ⟨.ok done, [], [], by rw [afterCalls_nil]; rfl, .nil, ?_⟩
    intro g hg sent
    rw [List.append_nil]
    exact congrArg (·, _) hg
  | cons c program ih =>
    cases hc : c.block? with
    | some text =>
      rw [generateFrom_text hc, generateFrom_text hc]
      exact ih (done.add c text) w
    | none =>
      obtain ⟨stub, rfl⟩ := Construct.eq_function_of_block? hc
      let r := Request.ofStub stub done.blocks
      rcases run_complete_cases config r w with ⟨cause, hrun⟩ | ⟨call, hcall, hrun⟩
      · -- Nothing was sent.
        refine ⟨.error ⟨stub.name, cause⟩, [], [], ?_, .nil, fun g hg => nomatch hg⟩
        rw [run_generateFrom_error hrun, afterCalls_nil]
      · cases hreply : (w.answerTo call).reply with
        | error cause =>
          rw [hreply] at hrun
          exact ⟨.error ⟨stub.name, cause⟩, [r], [call], run_generateFrom_error hrun program,
            .cons hcall .nil, fun g hg => nomatch hg⟩
        | ok content =>
          rw [hreply] at hrun
          obtain ⟨result, requests, calls, hrest, hcalls, hscript⟩ :=
            ih (done.add (.function stub) (Reply.block content)) (w.afterCalls [call])
          refine ⟨result, r :: requests, call :: calls, ?_, .cons hcall hcalls, ?_⟩
          · rw [run_generateFrom_ok hrun, hrest, ← afterCalls_cons]
          · intro g hg sent
            have hrest := hscript g hg (sent ++ [r])
            rw [List.append_assoc] at hrest
            exact (StubCompiler.run_generateFrom_ok (by exact hreply) program).trans hrest

/-! ### A whole program -/

def generation (w : World) (config : ServiceConfig) (program : Program) :
    Except GenerateError Generated :=
  ((generate (config.complete host.send) program).run w).1

end World

end StubCompiler
