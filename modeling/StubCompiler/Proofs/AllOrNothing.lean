import StubCompiler.Command.Options
import StubCompiler.Proofs.Commands

/-!
# Compiling a file is all or nothing

A compilation passes through five stages that can fail: reading the source, reading the output of the
last run, reading the program, setting up the service, generating.  Until all of them have succeeded no
file has been touched, however many calls the service has answered by then; and the one write that
follows stores what the stages came to.  Files of variables are read by a package that may also end the
program itself, before the service is set up; then nothing has been touched either.
-/

namespace StubCompiler

namespace World

/-! ### The stages -/

/-- What the stages come to, if the program is not ended while the variables are read. -/
def compiled (w : World) (input output : Text) : Option (Except CompileError Generated) :=
  match w.loaded input output with
  | .error error => some (.error error)
  | .ok loaded =>
    w.fullEnvironment.map fun env => do
      let config ← (Settings.ofEnvironment env).provider.mapError CompileError.setup
      (w.generation config loaded.program).mapError CompileError.generation

/-- A compilation of which every stage has succeeded: the texts it read, the program, and what the
service made of it in answer to the calls. -/
structure Success (w : World) (input output : Text) where
  source : Text
  previous : Text
  program : Program
  environment : Environment
  config : ServiceConfig
  requests : List Request
  calls : List Call
  generated : Generated
  read_source : w.files.read input = .ok source
  read_previous : w.previousText output = .ok previous
  read_program : readProgram source previous = .ok program
  environment_eq : w.fullEnvironment = some environment
  set_up : (Settings.ofEnvironment environment).provider = .ok config
  generation_eq : w.generation config program = .ok generated
  called : List.Forall₂ (fun r call => config.call r = .ok call) requests calls
  answered : generateWith ((w.received calls).map fun answer _ => answer.reply) program =
    (.ok generated, requests)

section
variable {w : World} {input output : Text}

theorem Success.loaded_eq (s : w.Success input output) :
    w.loaded input output = .ok ⟨s.source, s.program⟩ := by
  rw [loaded, s.read_source, s.read_previous]
  dsimp only [Except.mapError, bind, Except.bind]
  rw [s.read_program]
  rfl

theorem Success.compiled_eq (s : w.Success input output) :
    w.compiled input output = some (.ok s.generated) := by
  rw [compiled, s.loaded_eq]
  dsimp only
  rw [s.environment_eq, Option.map_some, s.set_up]
  dsimp only [Except.mapError, bind, Except.bind]
  rw [s.generation_eq]

section
variable {loaded : Host.Loaded} (hloaded : w.loaded input output = .ok loaded)
include hloaded

theorem compiled_of_stopped (h : w.fullEnvironment = none) : w.compiled input output = none := by
  rw [compiled, hloaded]
  dsimp only
  rw [h, Option.map_none]

variable {env : Environment} (henv : w.fullEnvironment = some env)
include henv

end

theorem Success.previous_eq_nil (s : w.Success input output)
    (h : Path.same output Path.standardOutput = true) : s.previous = [] := by
  have hprevious := s.read_previous
  rw [previousText, if_pos h] at hprevious
  exact (Except.ok.inj hprevious).symm

end

/-! ### How a compilation ends -/

inductive Ends (w : World) (input output : Text) : Except Nat Text × World → Prop where
  | unread {error : CompileError} (text : Text) (h : w.loaded input output = .error error) :
    Ends w input output (.error 1, w.printed text (w.complaint w.environment input error))
  | stopped {loaded : Host.Loaded} (text : Text) (hloaded : w.loaded input output = .ok loaded)
    (h : w.fullEnvironment = none) : Ends w input output (.error faultCode, w.printed text [])
  | unset {loaded : Host.Loaded} {env : Environment} {cause : ProviderError} (text errors : Text)
    (hloaded : w.loaded input output = .ok loaded) (henv : w.fullEnvironment = some env)
    (h : (Settings.ofEnvironment env).provider = .error cause) :
    Ends w input output (.error 1, w.printed text errors)
  | ungenerated {loaded : Host.Loaded} {env : Environment} {config : ServiceConfig}
    {error : GenerateError} (text errors : Text) (calls : List Call)
    (hloaded : w.loaded input output = .ok loaded) (henv : w.fullEnvironment = some env)
    (hconfig : (Settings.ofEnvironment env).provider = .ok config)
    (h : w.generation config loaded.program = .error error) :
    Ends w input output (.error 1, (w.afterCalls calls).printed text errors)
  | shown (errors : Text) (s : w.Success input output)
    (h : Path.same output Path.standardOutput = true) :
    Ends w input output (.ok output, (w.afterCalls s.calls).printed (s.generated.code ++ "\n") errors)
  | written {stored : FileTree} (text errors : Text) (s : w.Success input output)
    (hpath : Path.same output Path.standardOutput = false)
    (h : w.files.stored output s.generated.code = .ok stored) :
    Ends w input output (.ok output, ((w.afterCalls s.calls).printed text errors).withFiles stored)
  | unwritten {cause : IoError} (text errors : Text) (files : FileTree) (s : w.Success input output)
    (hpath : Path.same output Path.standardOutput = false)
    (h : w.files.stored output s.generated.code = .error cause) :
    Ends w input output (.error 1, ((w.afterCalls s.calls).printed text errors).withFiles files)

def exitCode : Except Nat Text → Nat
  | .ok _ => 0
  | .error code => code

section
variable {w : World} {input output : Text} {outcome : Except Nat Text × World}
  (h : w.Ends input output outcome)
include h

theorem Ends.failed {error : CompileError} (herror : w.compiled input output = some (.error error)) :
    exitCode outcome.1 = 1 ∧ outcome.2.files = w.files := by
  cases h with
  | stopped _ hloaded henv =>
    rw [compiled_of_stopped hloaded henv] at herror
    cases herror
  | shown _ s | written _ _ s | unwritten _ _ _ s =>
    rw [s.compiled_eq] at herror
    cases herror
  | _ => exact ⟨rfl, rfl⟩

theorem Ends.reported {errors : SyntaxErrors}
    (herrors : w.loaded input output = .error (.program errors)) :
    exitCode outcome.1 = 1 ∧ outcome.2.sent = w.sent ∧
      outcome.2.errors = w.errors ++ w.complaint w.environment input (.program errors) := by
  cases h with
  | unread _ hloaded =>
    rw [herrors] at hloaded
    cases hloaded
    exact ⟨rfl, rfl, rfl⟩
  | stopped _ hloaded | unset _ _ hloaded | ungenerated _ _ _ hloaded =>
    rw [herrors] at hloaded
    cases hloaded
  | shown _ s | written _ _ s | unwritten _ _ _ s =>
    have hloaded := s.loaded_eq
    rw [herrors] at hloaded
    cases hloaded

theorem Ends.succeeded (hcode : exitCode outcome.1 = 0) :
    ∃ s : w.Success input output, outcome.2.sent = w.sent ++ s.calls ∧
      if Path.same output Path.standardOutput then
        s.previous = [] ∧ outcome.2.files = w.files ∧
          outcome.2.output = w.output ++ (s.generated.code ++ "\n")
      else ∃ here, w.files.Wrote outcome.2.files output s.generated.code here := by
  cases h with
  | shown _ s hpath =>
    refine ⟨s, rfl, ?_⟩
    rw [if_pos hpath]
    exact ⟨s.previous_eq_nil hpath, rfl, rfl⟩
  | written _ _ s hpath hstored =>
    refine ⟨s, rfl, ?_⟩
    rw [hpath]
    exact FileTree.wrote_of_stored hstored
  | _ => cases hcode

end

/-! ### The command line -/

end World

end StubCompiler
