import Mathlib.Data.List.Forall2
import StubCompiler.Generation

/-!
# What the completion service is asked

Generation is a fold from left to right.  The request for a function shows the texts of the constructs
before it and nothing else; these depend on the constructs and on the replies received so far.  The
first error ends the run.  So what comes later in a program changes neither the requests nor the texts
of what comes earlier.
-/

namespace StubCompiler

/-! ### What a run is made of -/

/-- The replies to requests, in the order in which they were sent. -/
def Script.replies (answers : List (Request → Reply)) : List Request → List Reply
  | [] => []
  | r :: sent => (answers.headD echo) r :: replies answers.tail sent

namespace Program

/-- The functions that the service is asked for, each with its place in the program; places are
counted from `n`. -/
def functionsFrom (n : Nat) : Program → List (Nat × Stub)
  | [] => []
  | .function stub :: program => (n, stub) :: functionsFrom (n + 1) program
  | _ :: program => functionsFrom (n + 1) program

abbrev functions (program : Program) : List (Nat × Stub) := functionsFrom 0 program

/-- The texts of the constructs when the functions get the given contents, up to the first function
that gets none. -/
def texts : Program → List (Option Text) → List Text
  | [], _ => []
  | c :: program, contents =>
    match c.block?, contents with
    | some text, contents => text :: texts program contents
    | none, content :: contents => Reply.block content :: texts program contents
    | none, [] => []

/-- The requests when the functions get the given contents: one for each, and one for the first
function that gets none. -/
def requests (prior : List Text) : Program → List (Option Text) → List Request
  | [], _ => []
  | .function stub :: program, content :: contents =>
    Request.ofStub stub prior :: requests (prior ++ [Reply.block content]) program contents
  | .function stub :: _, [] => [Request.ofStub stub prior]
  | c :: program, contents => requests (prior ++ [c.block?.getD []]) program contents

end Program

/-- The request asks for the function of `stub` and shows the texts `prior`. -/
structure Request.Asks (r : Request) (stub : Stub) (prior : List Text) : Prop where
  function : r.function = stub.name
  system : r.system = instruction stub.name
  prompt : r.prompt = stub.print
  context : r.context = prior.map (⟨.user, ·⟩)
  messages : r.messages =
    ⟨.system, instruction stub.name⟩ :: prior.map (⟨.user, ·⟩) ++ [⟨.user, stub.print⟩]

theorem Request.asks_ofStub (stub : Stub) (prior : List Text) : (ofStub stub prior).Asks stub prior :=
  ⟨rfl, rfl, rfl, rfl, rfl⟩

/-! ### One construct -/

theorem Construct.eq_function_of_block? {c : Construct} (h : c.block? = none) :
    ∃ stub, c = .function stub := by
  cases c with
  | function stub => exact ⟨stub, rfl⟩
  | pinned stub body => simp [block?] at h
  | typeDefinition body => simp [block?] at h
  | union name tags => simp [block?] at h
  | exportList names => simp [block?] at h

section
variable {c : Construct} {text : Text} (h : c.block? = some text)
include h

theorem Program.functionsFrom_text (n : Nat) (program : Program) :
    functionsFrom n (c :: program) = functionsFrom (n + 1) program := by
  cases c with
  | function stub => simp [Construct.block?] at h
  | _ => rfl

theorem Program.texts_text (program : Program) (contents : List (Option Text)) :
    texts (c :: program) contents = text :: texts program contents := by
  simp [texts, h]

theorem Program.requests_text (prior : List Text) (program : Program)
    (contents : List (Option Text)) :
    requests prior (c :: program) contents = requests (prior ++ [text]) program contents := by
  have htext : c.block?.getD [] = text := by simp [h]
  cases c with
  | function stub => simp [Construct.block?] at h
  | _ => rw [← htext]; rfl

theorem generateFrom_text {m : Type → Type} [Monad m] [LawfulMonad m] (complete : Request → m Reply)
    (done : Generated) (program : Program) :
    generateFrom complete done (c :: program) = generateFrom complete (done.add c text) program := by
  have htext : c.block?.getD [] = text := by simp [h]
  have hpure : c.generate complete done.blocks = pure (.ok text) := by
    cases c with
    | function stub => simp [Construct.block?] at h
    | _ => rw [← htext]; rfl
  rw [generateFrom, hpure, pure_bind]

theorem run_generateFrom_text (done : Generated) (program : Program) (s : Script) :
    (generateFrom Script.complete done (c :: program)).run s =
      (generateFrom Script.complete (done.add c text) program).run s := by
  rw [generateFrom_text h]

end

theorem generateFrom_function {m : Type → Type} [Monad m] [LawfulMonad m]
    (complete : Request → m Reply) (stub : Stub) (done : Generated) (program : Program) :
    generateFrom complete done (.function stub :: program) =
      complete (Request.ofStub stub done.blocks) >>= fun
        | .ok content =>
          generateFrom complete (done.add (.function stub) (Reply.block content)) program
        | .error cause => pure (.error ⟨stub.name, cause⟩) := by
  simp only [generateFrom, Construct.generate, bind_assoc]
  refine bind_congr fun reply => ?_
  cases reply <;> simp

section
variable {stub : Stub} {done : Generated} {s : Script}

theorem run_generateFrom_ok {content : Option Text}
    (h : (s.answers.headD Script.echo) (Request.ofStub stub done.blocks) = .ok content)
    (program : Program) :
    (generateFrom Script.complete done (.function stub :: program)).run s =
      (generateFrom Script.complete (done.add (.function stub) (Reply.block content)) program).run
        ⟨s.answers.tail, s.sent ++ [Request.ofStub stub done.blocks]⟩ := by
  rw [generateFrom_function, StateT.run_bind]
  simp only [StateT.run, Script.complete, h]
  rfl

theorem run_generateFrom_error {cause : ProviderError}
    (h : (s.answers.headD Script.echo) (Request.ofStub stub done.blocks) = .error cause)
    (program : Program) :
    (generateFrom Script.complete done (.function stub :: program)).run s =
      (.error ⟨stub.name, cause⟩,
        ⟨s.answers.tail, s.sent ++ [Request.ofStub stub done.blocks]⟩) := by
  rw [generateFrom_function, StateT.run_bind]
  simp only [StateT.run, Script.complete, h]
  rfl

end

/-! ### A whole run -/

/-- How a run from `done` through `program` ends, when `replies` are the replies it got and `contents`
what the replies before the end hold. -/
def Program.EndsWith (program : Program) (done : Generated) (contents : List (Option Text))
    (replies : List Reply) : Except GenerateError Generated → Prop
  | .ok g =>
    replies = contents.map .ok ∧ contents.length = (program.functionsFrom done.blocks.length).length ∧
      g.blocks = done.blocks ++ program.texts contents
  | .error e => ∃ stub cause,
    replies = contents.map .ok ++ [.error cause] ∧ e = ⟨stub.name, cause⟩ ∧
      (program.functionsFrom done.blocks.length)[contents.length]? =
        some (done.blocks.length + (program.texts contents).length, stub)

@[simp] theorem Generated.blocks_add (g : Generated) (c : Construct) (block : Text) :
    (g.add c block).blocks = g.blocks ++ [block] := rfl

theorem Program.EndsWith.text {c : Construct} {text : Text} (hc : c.block? = some text)
    {program : Program} {done : Generated} {contents : List (Option Text)} {replies : List Reply}
    {result : Except GenerateError Generated}
    (h : program.EndsWith (done.add c text) contents replies result) :
    EndsWith (c :: program) done contents replies result := by
  cases result with
  | ok g =>
    obtain ⟨hreplies, hlength, hblocks⟩ := h
    refine ⟨hreplies, ?_, ?_⟩
    · rw [functionsFrom_text hc]
      simpa using hlength
    · rw [texts_text hc, hblocks]
      simp
  | error e =>
    obtain ⟨stub, cause, hreplies, he, hstub⟩ := h
    refine ⟨stub, cause, hreplies, he, ?_⟩
    rw [functionsFrom_text hc, texts_text hc]
    simpa [Nat.add_assoc, Nat.add_comm] using hstub

theorem Program.EndsWith.function {stub : Stub} {content : Option Text} {program : Program}
    {done : Generated} {contents : List (Option Text)} {replies : List Reply}
    {result : Except GenerateError Generated}
    (h : program.EndsWith (done.add (.function stub) (Reply.block content)) contents replies result) :
    EndsWith (.function stub :: program) done (content :: contents) (.ok content :: replies)
      result := by
  cases result with
  | ok g =>
    obtain ⟨hreplies, hlength, hblocks⟩ := h
    refine ⟨by rw [hreplies, List.map_cons], ?_, ?_⟩
    · simpa [functionsFrom] using hlength
    · simpa [texts, Construct.block?] using hblocks
  | error e =>
    obtain ⟨failed, cause, hreplies, he, hstub⟩ := h
    refine ⟨failed, cause, by rw [hreplies, List.map_cons, List.cons_append], he, ?_⟩
    simpa [functionsFrom, texts, Construct.block?, Nat.add_assoc, Nat.add_comm] using hstub

/-- The run lemma: the requests are those of the contents received, and the run ends with the last
function or with the first error. -/
theorem run_generateFrom (done : Generated) (program : Program) (s : Script) :
    ∃ contents,
      ((generateFrom Script.complete done program).run s).2.sent =
        s.sent ++ program.requests done.blocks contents ∧
      program.EndsWith done contents
        (Script.replies s.answers (program.requests done.blocks contents))
        ((generateFrom Script.complete done program).run s).1 := by
  -- The run lengthens the accumulator and the record of requests, so both vary in the induction.
  induction program generalizing done s with
  | nil => exact ⟨[], (List.append_nil _).symm, rfl, rfl, (List.append_nil _).symm⟩
  | cons c program ih =>
    cases hb : c.block? with
    | some text =>
      obtain ⟨contents, hsent, hend⟩ := ih (done.add c text) s
      rw [Generated.blocks_add, ← Program.requests_text hb] at hsent hend
      rw [run_generateFrom_text hb]
      exact ⟨contents, hsent, hend.text hb⟩
    | none =>
      obtain ⟨stub, rfl⟩ := Construct.eq_function_of_block? hb
      let r := Request.ofStub stub done.blocks
      cases hr : (s.answers.headD Script.echo) r with
      | error cause =>
        -- The request that fails is the last one, and no content belongs to it.
        rw [run_generateFrom_error hr]
        refine ⟨[], rfl, stub, cause, ?_, rfl, rfl⟩
        show [(s.answers.headD Script.echo) r] = [.error cause]
        rw [hr]
      | ok content =>
        rw [run_generateFrom_ok hr]
        obtain ⟨contents, hsent, hend⟩ := ih (done.add (.function stub) (Reply.block content))
          ⟨s.answers.tail, s.sent ++ [r]⟩
        refine ⟨content :: contents, ?_, ?_⟩
        · rw [hsent, List.append_assoc]
          rfl
        · have hreply : Script.replies s.answers
              (Program.requests done.blocks (.function stub :: program) (content :: contents)) =
              .ok content :: Script.replies s.answers.tail
                (Program.requests (done.blocks ++ [Reply.block content]) program contents) := by
            rw [← hr]
            rfl
          rw [hreply]
          exact hend.function

/-! ### Requests by their place in the program -/

/-- The request for a function shows the texts before its place. -/
theorem Program.requests_eq (prior : List Text) (program : Program) (contents : List (Option Text)) :
    program.requests prior contents =
      ((program.functionsFrom prior.length).take (contents.length + 1)).map fun (place, stub) =>
        Request.ofStub stub ((prior ++ program.texts contents).take place) := by
  induction program generalizing prior contents with
  | nil => rfl
  | cons c program ih =>
    cases hb : c.block? with
    | some text =>
      have hrest := ih (prior ++ [text]) contents
      rw [List.length_append, List.length_singleton, List.append_assoc, List.singleton_append] at hrest
      rw [requests_text hb, functionsFrom_text hb, texts_text hb, hrest]
    | none =>
      obtain ⟨stub, rfl⟩ := Construct.eq_function_of_block? hb
      cases contents with
      | nil => simp [requests, functionsFrom, texts, hb]
      | cons content contents =>
        have hrest := ih (prior ++ [Reply.block content]) contents
        rw [List.length_append, List.length_singleton, List.append_assoc,
          List.singleton_append] at hrest
        simp [requests, functionsFrom, texts, hb, hrest]

/-- With a content for every function, every construct has a text. -/
theorem Program.length_texts {n : Nat} {program : Program} {contents : List (Option Text)}
    (h : (program.functionsFrom n).length ≤ contents.length) :
    (program.texts contents).length = program.length := by
  induction program generalizing n contents with
  | nil => rfl
  | cons c program ih =>
    cases hb : c.block? with
    | some text =>
      rw [functionsFrom_text hb] at h
      rw [texts_text hb, List.length_cons, List.length_cons, ih h]
    | none =>
      obtain ⟨stub, rfl⟩ := Construct.eq_function_of_block? hb
      cases contents with
      | nil => simp [functionsFrom] at h
      | cons content contents =>
        simp only [functionsFrom, List.length_cons, Nat.add_le_add_iff_right] at h
        simp only [texts, hb, List.length_cons, ih h]

/-! ### What comes later -/

theorem Program.take_texts_append (p q : Program) (contents : List (Option Text)) :
    (texts (p ++ q) contents).take p.length = p.texts contents := by
  induction p generalizing contents with
  | nil => rfl
  | cons c p ih =>
    cases hb : c.block? with
    | some text =>
      rw [List.cons_append, texts_text hb, texts_text hb, List.length_cons, List.take_succ_cons, ih]
    | none =>
      cases contents with
      | nil => simp [texts, hb]
      | cons content contents => simp [texts, hb, ih]

/-- Contents past the last function are not used. -/
theorem Program.texts_append_contents {n : Nat} {program : Program} {contents : List (Option Text)}
    (h : (program.functionsFrom n).length ≤ contents.length) (more : List (Option Text)) :
    program.texts (contents ++ more) = program.texts contents := by
  induction program generalizing n contents with
  | nil => rfl
  | cons c program ih =>
    cases hb : c.block? with
    | some text =>
      rw [functionsFrom_text hb] at h
      rw [texts_text hb, texts_text hb, ih h]
    | none =>
      obtain ⟨stub, rfl⟩ := Construct.eq_function_of_block? hb
      cases contents with
      | nil => simp [functionsFrom] at h
      | cons content contents =>
        simp only [functionsFrom, List.length_cons, Nat.add_le_add_iff_right] at h
        simp only [texts, hb, List.cons_append, ih h]

theorem run_generateFrom_append (done : Generated) (p q : Program) (s : Script) :
    (generateFrom Script.complete done (p ++ q)).run s =
      match (generateFrom Script.complete done p).run s with
      | (.ok g, s') => (generateFrom Script.complete g q).run s'
      | (.error e, s') => (.error e, s') := by
  induction p generalizing done s with
  | nil => rfl
  | cons c p ih =>
    rw [List.cons_append]
    cases hb : c.block? with
    | some text => rw [run_generateFrom_text hb, run_generateFrom_text hb, ih]
    | none =>
      obtain ⟨stub, rfl⟩ := Construct.eq_function_of_block? hb
      cases hr : (s.answers.headD Script.echo) (Request.ofStub stub done.blocks) with
      | error cause => rw [run_generateFrom_error hr, run_generateFrom_error hr]
      | ok content => rw [run_generateFrom_ok hr, run_generateFrom_ok hr, ih]

/-! ### What is seen of a run -/

/-- How a run ended, the requests and the replies to them, and the texts that the constructs got. -/
structure Transcript where
  result : Except GenerateError Generated
  sent : List Request
  replies : List Reply
  texts : List Text

def transcript (answers : List (Request → Reply)) (program : Program) : Transcript :=
  let (result, sent) := generateWith answers program
  let replies := Script.replies answers sent
  ⟨result, sent, replies, program.texts (replies.filterMap Except.toOption)⟩

theorem generate_eq {m : Type → Type} [Monad m] (complete : Request → m Reply) (program : Program) :
    generate complete program =
      generateFrom complete {} program >>= fun result => pure (result.map Generated.finish) := by
  rw [generate]
  refine bind_congr fun result => ?_
  cases result <;> rfl

theorem generateWith_eq (answers : List (Request → Reply)) (program : Program) :
    generateWith answers program =
      (((generateFrom Script.complete {} program).run ⟨answers, []⟩).1.map Generated.finish,
        ((generateFrom Script.complete {} program).run ⟨answers, []⟩).2.sent) := by
  rw [generateWith, generate_eq, StateT.run_bind]
  rfl

theorem Program.EndsWith.contents_eq {program : Program} {done : Generated}
    {contents : List (Option Text)} {replies : List Reply} {result : Except GenerateError Generated}
    (h : program.EndsWith done contents replies result) :
    replies.filterMap Except.toOption = contents := by
  have hall : (contents.map (Except.ok : _ → Reply)).filterMap Except.toOption = contents := by
    rw [List.filterMap_map]
    exact List.filterMap_some
  cases result with
  | ok g => rw [h.1, hall]
  | error e =>
    obtain ⟨stub, cause, hreplies, -, -⟩ := h
    rw [hreplies, List.filterMap_append, hall]
    exact List.append_nil contents

/-- The run behind a transcript. -/
theorem transcript_spec (answers : List (Request → Reply)) (program : Program) :
    ∃ contents result,
      (transcript answers program).result = result.map Generated.finish ∧
      (transcript answers program).sent = program.requests [] contents ∧
      (transcript answers program).texts = program.texts contents ∧
      program.EndsWith {} contents (transcript answers program).replies result := by
  obtain ⟨contents, hsent, hend⟩ := run_generateFrom {} program ⟨answers, []⟩
  have hrun := generateWith_eq answers program
  rw [List.nil_append] at hsent
  rw [hsent] at hrun
  refine ⟨contents, ((generateFrom Script.complete {} program).run ⟨answers, []⟩).1, ?_, ?_, ?_, ?_⟩
  · rw [transcript, hrun]
  · rw [transcript, hrun]
  · rw [transcript, hrun]
    exact congrArg program.texts hend.contents_eq
  · rw [transcript, hrun]
    exact hend

theorem Script.replies_append (answers : List (Request → Reply)) (xs ys : List Request) :
    replies answers (xs ++ ys) = replies answers xs ++ replies (answers.drop xs.length) ys := by
  induction xs generalizing answers with
  | nil => rfl
  | cons r xs ih =>
    have hdrop : answers.drop (xs.length + 1) = answers.tail.drop xs.length := by simp
    rw [List.cons_append, replies, ih, List.length_cons, hdrop]
    rfl

theorem Program.length_requests (program : Program) (contents : List (Option Text)) :
    (program.requests [] contents).length = min (contents.length + 1) program.functions.length := by
  rw [requests_eq, List.length_map, List.length_take, List.length_nil]

/-- A run through `p ++ q` starts with the requests and replies of the run through `p`, and ends with
them if the latter fails. -/
theorem transcript_append (answers : List (Request → Reply)) (p q : Program) :
    ∃ sent replies,
      (transcript answers (p ++ q)).sent = (transcript answers p).sent ++ sent ∧
      (transcript answers (p ++ q)).replies = (transcript answers p).replies ++ replies ∧
      (∀ e, (transcript answers p).result = .error e → sent = [] ∧ replies = []) := by
  have hp := generateWith_eq answers p
  have hpq := generateWith_eq answers (p ++ q)
  rw [run_generateFrom_append] at hpq
  cases hrun : (generateFrom Script.complete {} p).run ⟨answers, []⟩ with
  | mk result s =>
    rw [hrun] at hp hpq
    cases result with
    | error e =>
      refine ⟨[], [], ?_, ?_, fun _ _ => ⟨rfl, rfl⟩⟩
      · rw [transcript, transcript, hp, hpq, List.append_nil]
      · rw [transcript, transcript, hp, hpq, List.append_nil]
    | ok g =>
      obtain ⟨contents, hsent, -⟩ := run_generateFrom g q s
      dsimp only at hpq
      rw [hsent] at hpq
      refine ⟨q.requests g.blocks contents,
        Script.replies (answers.drop s.sent.length) (q.requests g.blocks contents), ?_, ?_, ?_⟩
      · rw [transcript, transcript, hp, hpq]
      · rw [transcript, transcript, hp, hpq]
        exact Script.replies_append answers s.sent _
      · intro e he
        rw [transcript, hp] at he
        cases he

theorem transcript_take_sent (answers : List (Request → Reply)) (p q : Program) :
    (transcript answers (p ++ q)).sent.take p.functions.length = (transcript answers p).sent := by
  obtain ⟨sent, replies, hsent, -, hfail⟩ := transcript_append answers p q
  obtain ⟨contents, result, hresult, hown, -, hend⟩ := transcript_spec answers p
  have hlength := p.length_requests contents
  rw [hsent, hown]
  cases result with
  | error e =>
    rw [(hfail e hresult).1, List.append_nil]
    exact List.take_of_length_le (by omega)
  | ok g =>
    have hcontents : contents.length = p.functions.length := hend.2.1
    have hall : (p.requests [] contents).length = p.functions.length := by omega
    rw [← hall, List.take_left]

theorem transcript_take_texts (answers : List (Request → Reply)) (p q : Program) :
    (transcript answers (p ++ q)).texts.take p.length = (transcript answers p).texts := by
  obtain ⟨sent, replies, -, hreplies, hfail⟩ := transcript_append answers p q
  obtain ⟨contents, result, hresult, -, htexts, hend⟩ := transcript_spec answers p
  obtain ⟨all, whole, -, -, hall, hendall⟩ := transcript_spec answers (p ++ q)
  have hcontents : all = contents ++ replies.filterMap Except.toOption := by
    rw [← hendall.contents_eq, hreplies, List.filterMap_append, hend.contents_eq]
  rw [hall, Program.take_texts_append, htexts, hcontents]
  -- A failed run gets no more replies; after a successful one they are not for `p`.
  cases result with
  | error e =>
    rw [(hfail e hresult).2, List.filterMap_nil, List.append_nil]
  | ok g => exact Program.texts_append_contents (Nat.le_of_eq hend.2.1.symm) _

/-- The requests ask for the functions, one each, and each shows the texts before the place of its
function. -/
def Transcript.AsksFor (t : Transcript) (functions : List (Nat × Stub)) : Prop :=
  List.Forall₂ (fun r (place, stub) => r.Asks stub (t.texts.take place)) t.sent functions

theorem transcript_asksFor (answers : List (Request → Reply)) (program : Program) :
    (transcript answers program).AsksFor
      (program.functions.take (transcript answers program).sent.length) := by
  obtain ⟨contents, result, -, hsent, htexts, -⟩ := transcript_spec answers program
  have hlength := program.length_requests contents
  rw [← hsent] at hlength
  have htake : program.functions.take (transcript answers program).sent.length =
      program.functions.take (contents.length + 1) := by
    rw [List.take_eq_take_iff]
    omega
  rw [Program.requests_eq, List.nil_append, List.length_nil] at hsent
  rw [Transcript.AsksFor, htake, hsent, htexts, List.forall₂_map_left_iff]
  exact List.forall₂_same.2 fun f _ => Request.asks_ofStub f.2 _

theorem transcript_of_ok {answers : List (Request → Reply)} {program : Program} {g : Generated}
    (h : (transcript answers program).result = .ok g) :
    g.blocks = (transcript answers program).texts ++
        (if g.report.hasEntryPoint then [entryCall] else []) ∧
      (transcript answers program).texts.length = program.length ∧
      (transcript answers program).AsksFor program.functions := by
  obtain ⟨contents, result, hresult, hsent, htexts, hend⟩ := transcript_spec answers program
  cases result with
  | error e =>
    rw [h] at hresult
    cases hresult
  | ok done =>
    obtain ⟨-, hlength, hblocks⟩ := hend
    have hg : g = done.finish := Except.ok.inj (h.symm.trans hresult)
    refine ⟨?_, ?_, ?_⟩
    · rw [hg, htexts, Generated.finish]
      split
      · exact congrArg (· ++ [entryCall]) hblocks
      · rw [List.append_nil]
        exact hblocks
    · rw [htexts]
      exact Program.length_texts (Nat.le_of_eq hlength.symm)
    · have hcontents : contents.length = program.functions.length := hlength
      have hall := program.length_requests contents
      have hasks := transcript_asksFor answers program
      rwa [hsent, List.take_of_length_le (by omega)] at hasks

theorem transcript_of_error {answers : List (Request → Reply)} {program : Program} {k : Nat}
    {cause : ProviderError} (h : (transcript answers program).replies[k]? = some (.error cause)) :
    ∃ stub, program.functions[k]? = some ((transcript answers program).texts.length, stub) ∧
      (transcript answers program).result = .error ⟨stub.name, cause⟩ ∧
      (transcript answers program).AsksFor (program.functions.take (k + 1)) := by
  obtain ⟨contents, result, hresult, hsent, htexts, hend⟩ := transcript_spec answers program
  cases result with
  | ok done =>
    have hmem := List.mem_of_getElem? h
    rw [hend.1] at hmem
    simp at hmem
  | error e =>
    obtain ⟨stub, cause', hreplies, rfl, hstub⟩ := hend
    rw [hreplies] at h
    -- The error is the last reply, so it answers the request that comes after the contents.
    have hk : k = contents.length := by
      by_cases hlt : k < contents.length
      · rw [List.getElem?_append_left (by simpa using hlt)] at h
        simp [hlt] at h
      · rw [List.getElem?_append_right (by simpa using hlt)] at h
        have := (List.getElem?_eq_some_iff.1 h).1
        simp only [List.length_map, List.length_singleton] at this
        omega
    subst hk
    have hcause : cause' = cause := by simpa using h
    subst hcause
    have hplace : program.functions[contents.length]? = some ((program.texts contents).length, stub) := by
      simpa using hstub
    refine ⟨stub, by rw [htexts, hplace], hresult, ?_⟩
    have hlt := (List.getElem?_eq_some_iff.1 hplace).1
    have hall := program.length_requests contents
    have hcount : (program.requests [] contents).length = contents.length + 1 := by omega
    have hasks := transcript_asksFor answers program
    rwa [hsent, hcount] at hasks

theorem transcript_ok_of_replies {answers : List (Request → Reply)} {program : Program}
    (h : ∀ cause, .error cause ∉ (transcript answers program).replies) :
    ∃ g, (transcript answers program).result = .ok g := by
  obtain ⟨contents, result, hresult, -, -, hend⟩ := transcript_spec answers program
  cases result with
  | ok done => exact ⟨done.finish, hresult⟩
  | error e =>
    obtain ⟨stub, cause, hreplies, -, -⟩ := hend
    exact absurd (by simp [hreplies]) (h cause)

/-- Generation is a causal fold.  A successful run asks for every function, in the order of the
program, with the texts before it; an error in a reply ends the run with the request that it answers,
and nothing else does; and what comes after `program` has no influence on its requests and texts. -/
theorem generation_causal (answers : List (Request → Reply)) (program : Program) :
    (∀ g, (transcript answers program).result = .ok g →
      g.blocks = (transcript answers program).texts ++
          (if g.report.hasEntryPoint then [entryCall] else []) ∧
        (transcript answers program).texts.length = program.length ∧
        (transcript answers program).AsksFor program.functions) ∧
    (∀ k cause, (transcript answers program).replies[k]? = some (.error cause) →
      ∃ stub, program.functions[k]? = some ((transcript answers program).texts.length, stub) ∧
        (transcript answers program).result = .error ⟨stub.name, cause⟩ ∧
        (transcript answers program).AsksFor (program.functions.take (k + 1))) ∧
    ((∀ cause, .error cause ∉ (transcript answers program).replies) →
      ∃ g, (transcript answers program).result = .ok g) ∧
    ∀ q q' : Program,
      (transcript answers (program ++ q)).sent.take program.functions.length =
          (transcript answers (program ++ q')).sent.take program.functions.length ∧
        (transcript answers (program ++ q)).texts.take program.length =
          (transcript answers (program ++ q')).texts.take program.length ∧
        ∀ g g', (transcript answers (program ++ q)).result = .ok g →
          (transcript answers (program ++ q')).result = .ok g' →
          g.blocks.take program.length = g'.blocks.take program.length := by
  refine ⟨fun g => transcript_of_ok, fun k cause => transcript_of_error, transcript_ok_of_replies, ?_⟩
  intro q q'
  have htexts := (transcript_take_texts answers program q).trans
    (transcript_take_texts answers program q').symm
  refine ⟨(transcript_take_sent answers program q).trans
    (transcript_take_sent answers program q').symm, htexts, ?_⟩
  intro g g' hg hg'
  obtain ⟨hblocks, hlength, -⟩ := transcript_of_ok hg
  obtain ⟨hblocks', hlength', -⟩ := transcript_of_ok hg'
  rw [List.length_append] at hlength hlength'
  rw [hblocks, hblocks', List.take_append_of_le_length (by omega),
    List.take_append_of_le_length (by omega), htexts]

theorem generation_causal_of_two_functions :
    let program : Program :=
      [.function ⟨"f", [], "void", []⟩, .union "Shade" ["Red"], .function ⟨"g", [], "void", []⟩]
    let good : List (Request → Reply) := [fun _ => .ok none, fun r => .ok (some r.prompt)]
    let bad : List (Request → Reply) := [fun _ => .ok none, fun _ => .error .missingApiKey]
    (transcript good program).AsksFor program.functions ∧
      (transcript bad program).result = .error ⟨"g", .missingApiKey⟩ ∧
      (transcript bad program).AsksFor program.functions := by
  intro program good bad
  obtain ⟨-, -, hgood⟩ := (generation_causal good program).1 _ rfl
  obtain ⟨stub, hstub, hresult, hbad⟩ := (generation_causal bad program).2.1 1 .missingApiKey rfl
  have hname : stub.name = "g" := by
    have hplace : program.functions[1]? = some (2, ⟨"g", [], "void", []⟩) := rfl
    rw [hplace] at hstub
    rw [← (Prod.mk.inj (Option.some.inj hstub)).2]
  exact ⟨hgood, by rw [hresult, hname], hbad⟩

end StubCompiler
