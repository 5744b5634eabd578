import StubCompiler.Command.Run
import StubCompiler.Files.Tree

/-!
# The command line on the machine

The machine as a host.  It reads and writes files and prints, but it has no connection to a service
and starts no programs, so a source whose functions are all kept can be compiled, and every source can
be checked.
-/

namespace StubCompiler.Machine

def errorOf : IO.Error → IoError
  | .noFileOrDirectory .. => .notFound
  | .permissionDenied .. => .permissionDenied
  | .alreadyExists .. => .alreadyExists
  | .inappropriateType _ code _ => if code = 21 then .isADirectory else .notADirectory
  | error => .other error.toString.toList

def attempt {α : Type} (action : IO α) : IO (Except IoError α) := do
  match ← action.toBaseIO with
  | .ok value => return .ok value
  | .error error => return .error (errorOf error)

def readText (path : Text) : IO (Except IoError Text) := do
  match ← attempt (IO.FS.readBinFile (String.ofList path)) with
  | .error error => return .error error
  | .ok bytes =>
    match Utf8.text? bytes.data.toList with
    | some text => return .ok text
    | none => return .error .notUtf8

def makeParents (path : Text) : IO (Except IoError Unit) :=
  match (Path.directories path).head? with
  | none => return .ok ()
  | some parent => attempt (IO.FS.createDirAll (String.ofList parent))

def writeText (path text : Text) : IO (Except IoError Unit) :=
  attempt (IO.FS.writeFile (String.ofList path) (String.ofList text))

def variableNames : List String :=
  ["OPENAI_API_KEY", "OPENAI_GPT_MODEL", "OPENAI_BASE_URL", "OPENAI_TEMPERATURE", "CLICOLOR_FORCE",
    "NO_COLOR", "CLICOLOR"]

def environment : IO Environment :=
  variableNames.filterMapM fun name => do
    return (← IO.getEnv name).map fun value => (name.toList, value.toList)

/-- The nearest file of variables, in the working directory or above it. -/
def variableFile? : IO (Option Content) := do
  let working := (← IO.currentDir).toString.toList
  for directory in Path.directories (working ++ "/.env") ++ [[]] do
    if let .ok bytes ← attempt (IO.FS.readBinFile (String.ofList (directory ++ "/.env"))) then
      return some (.ofBytes bytes.data.toList)
  return none

def loadEnvironment : IO (Option Environment) := do
  let env ← environment
  match ← variableFile? with
  | none => return some env
  | some content => return env.withLines content.lines

def host : Host IO where
  readText := readText
  makeParents := makeParents
  writeText := writeText
  environment := environment
  loadEnvironment := loadEnvironment
  send _ := return .error "no connection"
  launch _ := return .failed (.other "Function not implemented (os error 38)")
  print text := do
    let output ← IO.getStdout
    output.putStr (String.ofList text)
    output.flush
  printError text := IO.eprint (String.ofList text)
  isTerminal := do (← IO.getStdout).isTty

end StubCompiler.Machine

def main (args : List String) : IO UInt32 := do
  return (← StubCompiler.Machine.host.main (args.map String.toList)).toUInt32
