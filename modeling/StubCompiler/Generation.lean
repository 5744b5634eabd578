import StubCompiler.Completion.Reply

/-!
# Generation

The constructs of a program are turned into blocks of text from left to right.  A function is sent to
the service together with all blocks before it, so it can rely on nothing that comes later; every
other construct has its text already.  One error of the service ends the generation.  What the service
is stays open: any way to answer a request, in any monad, will do, and `Script` is the way that follows
a list of prepared answers and keeps the requests.
-/

namespace StubCompiler

/-- The name of the function that is called at the end of the output. -/
def entryPoint : Text := "main"

def entryCall : Text := "main();"

/-- How the constructs of a program came by their blocks. -/
structure Report where
  /-- Functions sent to the service. -/
  requested : Nat := 0
  /-- Functions whose body was kept. -/
  pinned : Nat := 0
  /-- Types, unions and export lists. -/
  structural : Nat := 0
  /-- Functions for which the service had nothing to say. -/
  emptyResponses : List Text := []
  /-- The output calls the entry point. -/
  hasEntryPoint : Bool := false
deriving DecidableEq, Repr

structure Generated where
  blocks : List Text := []
  report : Report := {}
deriving DecidableEq, Repr

structure GenerateError where
  function : Text
  cause : ProviderError
deriving DecidableEq, Repr

def GenerateError.message (e : GenerateError) : Text :=
  "failed to generate function `" ++ e.function ++ "`: " ++ e.cause.message

/-- The block of a construct that needs no service. -/
def Construct.block? : Construct → Option Text
  | .function _ => none
  | .pinned _ body => some body
  | .typeDefinition body => some body
  | .union name tags => some (printUnion name tags)
  | .exportList names => some (printExports names)

def Report.add (r : Report) (c : Construct) (block : Text) : Report :=
  let r := { r with hasEntryPoint := r.hasEntryPoint || c.functionName? == some entryPoint }
  match c with
  | .function stub =>
    { r with
      requested := r.requested + 1
      emptyResponses := r.emptyResponses ++ if block = [] then [stub.name] else [] }
  | .pinned _ _ => { r with pinned := r.pinned + 1 }
  | _ => { r with structural := r.structural + 1 }

namespace Generated

def add (g : Generated) (c : Construct) (block : Text) : Generated :=
  ⟨g.blocks ++ [block], g.report.add c block⟩

/-- The entry point is called last, if the program has one. -/
def finish (g : Generated) : Generated :=
  if g.report.hasEntryPoint then { g with blocks := g.blocks ++ [entryCall] } else g

def code (g : Generated) : Text := assemble g.blocks

end Generated

section
variable {m : Type → Type} [Monad m] (complete : Request → m Reply)

/-- The block of one construct, when `prior` are the blocks before it. -/
def Construct.generate (c : Construct) (prior : List Text) : m (Except GenerateError Text) :=
  match c with
  | .function stub => do
    match ← complete (Request.ofStub stub prior) with
    | .ok content => return .ok (Reply.block content)
    | .error cause => return .error ⟨stub.name, cause⟩
  | c => return .ok (c.block?.getD [])

/-- The constructs of `program` after those already in `done`. -/
def generateFrom (done : Generated) : Program → m (Except GenerateError Generated)
  | [] => return .ok done
  | c :: program => do
    match ← c.generate complete done.blocks with
    | .ok block => generateFrom (done.add c block) program
    | .error error => return .error error

def generate (program : Program) : m (Except GenerateError Generated) := do
  match ← generateFrom complete {} program with
  | .ok done => return .ok done.finish
  | .error error => return .error error

end

/-! ### A service that follows a script -/

/-- The answers to come and the requests seen.  Past the end of the answers every stub is sent back as
it is. -/
structure Script where
  answers : List (Request → Reply)
  sent : List Request := []

namespace Script

def echo (r : Request) : Reply := .ok (some r.prompt)

def complete (r : Request) : StateM Script Reply := fun s =>
  ((s.answers.headD echo) r, ⟨s.answers.tail, s.sent ++ [r]⟩)

end Script

/-- Generates a program with prepared answers; the second part lists the requests. -/
def generateWith (answers : List (Request → Reply)) (program : Program) :
    Except GenerateError Generated × List Request :=
  let (result, script) := (generate Script.complete program).run ⟨answers, []⟩
  (result, script.sent)

end StubCompiler
