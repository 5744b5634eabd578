import StubCompiler.Command.Run
import StubCompiler.Proofs.Files
import StubCompiler.Proofs.Service

/-!
# Commands in a world

What the steps of the commands do to a world.  Reading and setting up change nothing, a message is only
added to what has been printed, a generation leaves its calls behind, and the files change where an
output is written and nowhere else.
-/

namespace StubCompiler.World

/-! ### What a world holds for a command -/

/-- The output of the last run: nothing is left of one that was printed, and a file that does not exist
stands for an empty one. -/
def previousText (w : World) (output : Text) : Except IoError Text :=
  if Path.same output Path.standardOutput then .ok []
  else match w.files.read output with
    | .error .notFound => .ok []
    | result => result

def loaded (w : World) (input output : Text) : Except CompileError Host.Loaded := do
  let source ← (w.files.read input).mapError (CompileError.io input)
  let previous ← (w.previousText output).mapError (CompileError.io output)
  let program ← (readProgram source previous).mapError CompileError.program
  return ⟨source, program⟩

/-- What the user is shown of an error. -/
def complaint (w : World) (env : Environment) (input : Text) (error : CompileError) : Text :=
  let source := match error with
    | .program _ => (w.files.read input).toOption
    | _ => none
  "❌ 发现错误:\n" ++ (error.diagnostics (some input)).render ⟨listingColours env false, true⟩ source

section
variable {w : World} {input output : Text}

end

/-! ### Running commands -/

section
variable {α β : Type}

theorem run_bind (step : StateM World α) (next : α → StateM World β) (w : World) :
    (step >>= next).run w = (next (step.run w).1).run (step.run w).2 := rfl

variable {command : CommandM (StateM World) α} {w w' : World}

end

/-! ### Printing -/

/-- What a step that ends in `w` comes to: its value, or the end of the command and a complaint. -/
def outcome {α : Type} (w : World) (env : Environment) (input text errors : Text) :
    Except CompileError α → Except Nat α × World
  | .ok a => (.ok a, w.printed text errors)
  | .error error => (.error 1, w.printed text (errors ++ w.complaint env input error))

def withFiles (w : World) (files : FileTree) : World := { w with files := files }

section
variable (w : World) (input text : Text)

end

section
variable {output : Text} (env : Environment) (input : Text) (isQuiet : Bool) (g : Generated) (w : World)

end

end StubCompiler.World
