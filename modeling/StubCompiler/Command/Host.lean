import StubCompiler.Compilation
import StubCompiler.Completion.Exchange
import StubCompiler.Files.Path

/-!
# The host

Everything that a command does to the outside goes through a host: reading and writing files, calling
the service, starting a program, printing.  The commands are written for any host, so the same
definitions run on the machine and on a world that is a value.
-/

namespace StubCompiler

inductive Launch where
  /-- The program could not be started. -/
  | failed (error : IoError)
  | exited (code : Nat)
  /-- The program was stopped by a signal. -/
  | killed
deriving DecidableEq, Repr

structure Host (m : Type → Type) where
  readText : Text → m (Except IoError Text)
  /-- Makes the directories in which a file lies. -/
  makeParents : Text → m (Except IoError Unit)
  writeText : Text → Text → m (Except IoError Unit)
  environment : m Environment
  /-- The environment after a file of variables has been read.  Reading it may end the program. -/
  loadEnvironment : m (Option Environment)
  /-- Carries a call to the service and brings back the answer. -/
  send : Call → m (Except Text Answer)
  /-- Starts a program and waits for its end; its output is the command's output. -/
  launch : List Text → m Launch
  print : Text → m Unit
  /-- Prints to the standard error, where the log goes as well, which is left out. -/
  printError : Text → m Unit
  /-- The output goes to a terminal. -/
  isTerminal : m Bool

namespace Host

variable {m : Type → Type} [Monad m] (host : Host m)

/-! ### Sources and outputs -/

def readSource (path : Text) : m (Except CompileError Text) := do
  match ← host.readText path with
  | .ok text => return .ok text
  | .error error => return .error (.io path error)

/-- The output of the last run: none is left of one that was printed, and a file that does not exist
stands for an empty one. -/
def readPrevious (path : Text) : m (Except CompileError Text) := do
  if Path.same path Path.standardOutput then return .ok []
  match ← host.readText path with
  | .ok text => return .ok text
  | .error .notFound => return .ok []
  | .error error => return .error (.io path error)

def writeOutput (path code : Text) : m (Except CompileError Unit) := do
  match ← host.makeParents path with
  | .error error => return .error (.io path error)
  | .ok () =>
    match ← host.writeText path code with
    | .error error => return .error (.io path error)
    | .ok () => return .ok ()

structure Loaded where
  source : Text
  program : Program
deriving DecidableEq, Repr

def load (input : Text) (previous : Option Text) : m (Except CompileError Loaded) := do
  match ← host.readSource input with
  | .error error => return .error error
  | .ok source =>
    let previousText ← match previous with
      | none => pure (.ok [])
      | some path => host.readPrevious path
    match previousText with
    | .error error => return .error error
    | .ok text =>
      match readProgram source text with
      | .error errors => return .error (.program errors)
      | .ok program => return .ok ⟨source, program⟩

end Host

end StubCompiler
