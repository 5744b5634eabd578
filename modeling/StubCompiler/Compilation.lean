import StubCompiler.Diagnostic.Excerpt
import StubCompiler.Files.Error
import StubCompiler.Generation

/-!
# Compilation

A compilation reads a program and generates its output.  Nothing is generated from a source with
errors, and no output comes of a generation that fails.  The errors of every stage and the report of a
successful run are turned into diagnostics here.
-/

namespace StubCompiler

inductive CompileError where
  | program (errors : SyntaxErrors)
  | generation (error : GenerateError)
  /-- The completion service cannot be set up. -/
  | setup (cause : ProviderError)
  | io (path : Text) (cause : IoError)
deriving DecidableEq, Repr

namespace CompileError

def message : CompileError → Text
  | .program errors => "Failed to parse program:\n" ++ errors.message
  | .generation error => error.message
  | .setup cause => "Failed to set up completion provider: " ++ cause.message
  | .io path cause => "IO error on " ++ path ++ ": " ++ cause.message

def setupSuggestions : ProviderError → List Text
  | .missingApiKey => ["set OPENAI_API_KEY in the environment or in a .env file"]
  | _ => []

def diagnostics (file : Option Text) (error : CompileError) : Sink :=
  let sink : Sink := match error with
    | .program errors => errors.map SyntaxError.diagnostic
    | .generation cause => [{ level := .error, message := cause.message }]
    | .setup cause =>
      [{ level := .error, message := cause.message, suggestions := setupSuggestions cause }]
    | .io path cause => [{ level := .error, message := (CompileError.io path cause).message }]
  sink.map (Diagnostic.inFile file)

end CompileError

/-- What a successful run leaves to say about `file`: a warning for each function without a body, and
a note if functions were kept. -/
def Report.diagnostics (file : Text) (r : Report) : Sink :=
  let empty := r.emptyResponses.map fun name =>
    { level := .warning
      message := "completion for `" ++ name ++ "` returned no content"
      file := some file
      notes := ["an empty body was emitted for this function"] : Diagnostic }
  let kept := if r.pinned = 0 then [] else
    [{ level := .note
       message := Text.ofNat r.pinned ++ " pinned function(s) reused from the previous output"
       file := some file : Diagnostic }]
  empty ++ kept

def compile {m : Type → Type} [Monad m] (complete : Request → m Reply) (source previous : Text) :
    m (Except CompileError Generated) := do
  match readProgram source previous with
  | .error errors => return .error (.program errors)
  | .ok program =>
    match ← generate complete program with
    | .error error => return .error (.generation error)
    | .ok generated => return .ok generated

end StubCompiler
