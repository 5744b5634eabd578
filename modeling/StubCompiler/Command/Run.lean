import StubCompiler.Command.Host
import StubCompiler.Command.Options

/-!
# Commands

The three commands and what they tell the user.  A compilation reads the source and the output of the
last run, then sets up the service, then generates, then writes; whatever fails, nothing has been
written before.  A command ends with an exit code.
-/

namespace StubCompiler

def versionLine : Text := "neuroc 0.1.0\n"

def usageLines : Text :=
  "Usage: neuroc [OPTIONS] <COMMAND>\n\nCommands:\n  compile  <INPUT> [-o <OUTPUT>]\n" ++
  "  run      <INPUT> [-o <OUTPUT>]\n  check    <INPUT> [--previous <PREVIOUS>]\n"

/-- Listings are coloured if the environment asks for it, or else on a terminal that it does not speak
against. -/
def listingColours (env : Environment) (isTerminal : Bool) : Bool :=
  let isOn (name : Text) : Option Bool := (env.get? name).map (· ≠ ("0" : Text))
  if isOn "CLICOLOR_FORCE" = some true then true
  else if (env.get? "NO_COLOR").isSome then false
  else isTerminal && (isOn "CLICOLOR").getD true

/-- The exit code of a program that was ended by a fault of its own. -/
def faultCode : Nat := 101

/-- A command that may end early with an exit code. -/
abbrev CommandM (m : Type → Type) := ExceptT Nat m

namespace Host

variable {m : Type → Type} [Monad m] (host : Host m)

def printUnless (isQuiet : Bool) (line : Text) : CommandM m Unit :=
  if isQuiet then pure () else host.print (line ++ "\n")

/-- Shows diagnostics to the user; excerpts are always coloured. -/
def report (env : Environment) (source : Option Text) (sink : Sink) : CommandM m Unit := do
  let isTerminal ← host.isTerminal
  host.printError (sink.render ⟨listingColours env isTerminal, true⟩ source)

/-- Reports an error and ends the command.  Errors of the source are shown beside the source, if it
can still be read. -/
def fail {α : Type} (env : Environment) (input : Text) (error : CompileError) : CommandM m α := do
  let source ← match error with
    | .program _ => do
      match ← host.readText input with
      | .ok text => pure (some text)
      | .error _ => pure none
    | _ => pure none
  host.printError "❌ 发现错误:\n"
  host.report env source (error.diagnostics (some input))
  throw 1

def orFail {α : Type} (env : Environment) (input : Text) (step : m (Except CompileError α)) :
    CommandM m α := do
  match ← step with
  | .ok value => return value
  | .error error => host.fail env input error

/-- Reports on a compilation that has succeeded and puts its output where it belongs. -/
def deliver (env : Environment) (input output : Text) (isQuiet : Bool) (generated : Generated) :
    CommandM m Unit := do
  let sink := generated.report.diagnostics input
  let warnings := sink.warningCount
  if 0 < warnings || !isQuiet then host.report env none sink
  if Path.same output Path.standardOutput then host.print (generated.code ++ "\n")
  else
    host.printUnless isQuiet ("  📝 写入 " ++ output)
    host.orFail env input (host.writeOutput output generated.code)
    host.printUnless isQuiet
      ("✅ 成功生成 " ++ output ++ " (" ++ Text.ofNat generated.report.requested ++ " 个函数生成, " ++
        Text.ofNat generated.report.pinned ++ " 个函数固定, " ++ Text.ofNat warnings ++ " 个警告)")

def compileFile (input : Text) (output : Option Text) (isQuiet : Bool) : CommandM m Text := do
  let output := output.getD (Path.defaultOutput input)
  let isQuiet := isQuiet || Path.same output Path.standardOutput
  host.printUnless isQuiet ("📦 编译 " ++ input ++ " ...")
  let env ← host.environment
  let loaded ← host.orFail env input (host.load input (some output))
  host.printUnless isQuiet
    ("  ✅ 解析成功 (" ++ Text.ofNat loaded.program.length ++ " 个顶层结构)")
  let some env ← host.loadEnvironment | throw faultCode
  let config ← host.orFail env input
    (pure ((Settings.ofEnvironment env).provider.mapError CompileError.setup))
  host.printUnless isQuiet ("  ⚙️  生成代码 (模型 " ++ config.model ++ ")...")
  let generated ← host.orFail env input do
    return (← generate (config.complete host.send) loaded.program).mapError CompileError.generation
  host.deliver env input output isQuiet generated
  return output

def runOutput (output : Text) (isQuiet : Bool) : CommandM m Unit := do
  if Path.same output Path.standardOutput then
    host.printError ("Error: cannot run output written to " ++ Path.standardOutput ++ "\n")
    throw 1
  host.printUnless isQuiet ("🚀 运行 " ++ output ++ " ...")
  match ← host.launch ["npx", "ts-node", output] with
  | .failed error =>
    host.printError ("Error: Running npx ts-node " ++ output ++ "\n\nCaused by:\n    " ++
      error.message ++ "\n")
    throw 1
  | .killed => throw 1
  | .exited code => if code = 0 then return () else throw code

def checkFile (input : Text) (previous : Option Text) : CommandM m Unit := do
  host.print ("🔍 检查 " ++ input ++ " ...\n")
  let env ← host.environment
  let loaded ← host.orFail env input (host.load input previous)
  host.print ("✅ 无错误 (" ++ Text.ofNat loaded.program.length ++ " 个顶层结构)\n")

def carryOut (invocation : Invocation) : CommandM m Unit := do
  match invocation.verb with
  | .compile =>
    let _ ← host.compileFile invocation.input invocation.file invocation.isQuiet
  | .run =>
    let output ← host.compileFile invocation.input invocation.file invocation.isQuiet
    host.runOutput output invocation.isQuiet
  | .check => host.checkFile invocation.input invocation.file

def main (words : List Text) : m Nat := do
  match CommandLine.read words with
  | .error .version => do
    host.print versionLine
    return 0
  | .error .help => do
    host.print usageLines
    return 0
  | .error (.usage problem) => do
    host.printError ("error: " ++ problem ++ "\n\n" ++ usageLines)
    return 2
  | .ok invocation =>
    match ← (host.carryOut invocation).run with
    | .ok () => return 0
    | .error code => return code

end Host

end StubCompiler
