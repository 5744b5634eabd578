import StubCompiler.Program.Printer

/-!
# Requests to the completion service

A request asks for one function.  The service is told what to do by a system message; the blocks that
stand before the function in the output follow as user messages, and the stub comes last.
-/

namespace StubCompiler

inductive Role where
  | system
  | user
deriving DecidableEq, Repr

def Role.name : Role → Text
  | .system => "system"
  | .user => "user"

structure Message where
  role : Role
  content : Text
deriving DecidableEq, Repr

structure Request where
  /-- The name of the function. -/
  function : Text
  system : Text
  context : List Message
  prompt : Text
deriving DecidableEq, Repr

namespace Request

def instruction (name : Text) : Text :=
  "Auto complete only the TypeScript function called " ++ name ++ " as purely plain TypeScript. " ++
  "Only complete the function given and assume the others are implemented. " ++
  "Respond with the single function " ++ name ++ ", signature and body, and nothing else. " ++
  "Do not wrap the code in markdown. Do not explain the code. " ++
  "Do not provide the code for other functions or types."

/-- The request for a stub when `prior` are the blocks written so far. -/
def ofStub (stub : Stub) (prior : List Text) : Request where
  function := stub.name
  system := instruction stub.name
  context := prior.map (⟨.user, ·⟩)
  prompt := stub.print

def messages (r : Request) : List Message :=
  ⟨.system, r.system⟩ :: r.context ++ [⟨.user, r.prompt⟩]

end Request

end StubCompiler
