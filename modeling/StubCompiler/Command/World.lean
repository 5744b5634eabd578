import StubCompiler.Command.Host
import StubCompiler.Files.Tree

/-!
# Worlds

A world is a host as a value: a file tree, an environment, a service that follows a script, and what
has been printed and sent so far.  How a file of variables is read, and what of an answer gets through to
the program, are functions that a world is given.
-/

namespace StubCompiler

/-! ### Files of variables -/

def variableFileName : Text := ".env"

/-- The nearest file of variables, in the working directory or above it. -/
def FileTree.variableFile? (tree : FileTree) : Option (Location × Content) :=
  (List.range (tree.working.length + 1)).reverse.findSome? fun depth =>
    let here := tree.working.take depth ++ [variableFileName]
    match tree.get? here with
    | some (.file content) => some (here, content)
    | _ => none

/-- The environment with the variables of the nearest file, which has plain lines. -/
def FileTree.plainVariables (tree : FileTree) (env : Environment) : Option Environment :=
  match tree.variableFile? with
  | none => some env
  | some (here, content) => if tree.allows .read here then env.withLines content.lines else some env

/-! ### Worlds -/

structure World where
  files : FileTree := {}
  environment : Environment := []
  /-- What the reader of a file of variables makes of an environment, unless it ends the program. -/
  readVariables : FileTree → Environment → Option Environment := FileTree.plainVariables
  /-- The service can be reached. -/
  isOnline : Bool := true
  /-- The answers to come.  Past their end every stub is sent back as it is. -/
  answers : List (Call → Answer) := []
  /-- What the program gets of an answer; by default, all of it. -/
  client : Answer → Answer := id
  /-- The calls that have reached the service. -/
  sent : List Call := []
  /-- How a program with these arguments ends, and what it prints. -/
  programs : List Text → Launch × Text := fun _ => (.failed .notFound, [])
  output : Text := []
  /-- What has been reported on the standard error, without the lines of the log. -/
  errors : Text := []

namespace World

/-- The environment with the variables of a file, unless reading it ends the program. -/
def fullEnvironment (w : World) : Option Environment := w.readVariables w.files w.environment

/-- The answer of a service that sends the stub back. -/
def echo (call : Call) : Answer := .ofContent (call.payload.messages.getLast?.map Message.content)

/-- What the program gets in answer to a call. -/
def answerTo (w : World) (call : Call) : Answer := w.client (w.answers.headD echo call)

def send (call : Call) : StateM World (Except Text Answer) := fun w =>
  if !w.isOnline then (.error "error sending request", w)
  else (.ok (w.answerTo call), { w with answers := w.answers.tail, sent := w.sent ++ [call] })

def makeParents (path : Text) : StateM World (Except IoError Unit) := fun w =>
  let (files, result) := w.files.makeParents path
  (result, { w with files := files })

def writeText (path text : Text) : StateM World (Except IoError Unit) := fun w =>
  match w.files.write path text with
  | .error error => (.error error, w)
  | .ok files => (.ok (), { w with files := files })

def launch (words : List Text) : StateM World Launch := fun w =>
  let (result, printed) := w.programs words
  (result, { w with output := w.output ++ printed })

def host : Host (StateM World) where
  readText path := fun w => (w.files.read path, w)
  makeParents := makeParents
  writeText := writeText
  environment := fun w => (w.environment, w)
  loadEnvironment := fun w => (w.fullEnvironment, w)
  send := send
  launch := launch
  print text := fun w => ((), { w with output := w.output ++ text })
  printError text := fun w => ((), { w with errors := w.errors ++ text })
  isTerminal := pure false

end World

end StubCompiler
