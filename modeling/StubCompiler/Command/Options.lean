import StubCompiler.Files.Path

/-!
# Command lines

A command line names a task, its input, and options: `-q` and `-v` wherever they stand, `-o` for the
output of a compilation, `--previous` for the output that a check looks at.  Short options can be
written together, and the value of an option can be attached to it.
-/

namespace StubCompiler

inductive Verb where
  | compile
  | run
  | check
deriving DecidableEq, Repr

structure Invocation where
  verb : Verb
  input : Text
  /-- The output of a compilation, or the previous output for a check. -/
  file : Option Text
  isQuiet : Bool
  isVerbose : Bool
deriving DecidableEq, Repr

inductive Refusal where
  /-- The version was asked for. -/
  | version
  /-- Help was asked for. -/
  | help
  /-- The command line is not well formed. -/
  | usage (problem : Text)
deriving DecidableEq, Repr

namespace CommandLine

/-- Options that stand together, before or after the verb; none may be given twice. -/
structure Flags where
  isQuiet : Bool := false
  isVerbose : Bool := false
deriving DecidableEq, Repr

structure Draft where
  /-- The options before the verb. -/
  outer : Flags := {}
  verb : Option Verb := none
  /-- The options after the verb. -/
  inner : Flags := {}
  input : Option Text := none
  file : Option Text := none
  /-- The next word is the value of an option. -/
  isAwaiting : Bool := false
  /-- All words that follow are inputs. -/
  isLiteral : Bool := false
deriving DecidableEq, Repr

def verb? (word : Text) : Option Verb :=
  if word = "compile" then some .compile
  else if word = "run" then some .run
  else if word = "check" then some .check
  else none

namespace Draft

def flags (d : Draft) : Flags := if d.verb.isSome then d.inner else d.outer

def withFlags (d : Draft) (flags : Flags) : Draft :=
  if d.verb.isSome then { d with inner := flags } else { d with outer := flags }

def setQuiet (d : Draft) : Except Refusal Draft :=
  if d.flags.isQuiet then .error (.usage "the argument '--quiet' cannot be used multiple times")
  else .ok (d.withFlags { d.flags with isQuiet := true })

def setVerbose (d : Draft) : Except Refusal Draft :=
  if d.flags.isVerbose then .error (.usage "the argument '--verbose' cannot be used multiple times")
  else .ok (d.withFlags { d.flags with isVerbose := true })

def setFile (d : Draft) (value : Text) : Except Refusal Draft :=
  if d.file.isSome then .error (.usage "an option cannot be used multiple times")
  else if value = [] then .error (.usage "a value is required")
  else .ok { d with file := some value, isAwaiting := false }

def addWord (d : Draft) (word : Text) : Except Refusal Draft :=
  match d.verb with
  | none =>
    if word = "help" then .error .help
    else match verb? word with
      | some verb => .ok { d with verb := some verb }
      | none => .error (.usage ("unrecognized subcommand '" ++ word ++ "'"))
  | some _ =>
    if d.input.isSome then .error (.usage ("unexpected argument '" ++ word ++ "' found"))
    else if word = [] then .error (.usage "a value is required for '<INPUT>'")
    else .ok { d with input := some word }

def hasOutput (d : Draft) : Bool := d.verb = some .compile || d.verb = some .run

def addShort (d : Draft) : Text → Except Refusal Draft
  | [] => .ok d
  | 'q' :: rest => d.setQuiet.bind (addShort · rest)
  | 'v' :: rest => d.setVerbose.bind (addShort · rest)
  | 'h' :: _ => .error .help
  | 'V' :: rest =>
    if d.verb.isSome then .error (.usage ("unexpected argument '-V" ++ rest ++ "' found"))
    else .error .version
  | 'o' :: rest =>
    if !d.hasOutput then .error (.usage "unexpected argument '-o' found")
    else match rest with
      | [] => .ok { d with isAwaiting := true }
      | '=' :: value => d.setFile value
      | value => d.setFile value
  | c :: _ => .error (.usage ("unexpected argument '-" ++ [c] ++ "' found"))

def addLong (d : Draft) (word : Text) : Except Refusal Draft :=
  let (name, value) := match Text.cutAt? '=' word with
    | some (name, value) => (name, some value)
    | none => (word, none)
  let takesFile :=
    (name = "output" && d.hasOutput) || (name = "previous" && d.verb = some .check)
  if takesFile then
    match value with
    | some value => d.setFile value
    | none => .ok { d with isAwaiting := true }
  else if value.isSome then .error (.usage ("unexpected argument '--" ++ name ++ "' found"))
  else if name = "quiet" then d.setQuiet
  else if name = "verbose" then d.setVerbose
  else if name = "help" then .error .help
  else if name = "version" && d.verb.isNone then .error .version
  else .error (.usage ("unexpected argument '--" ++ name ++ "' found"))

def add (d : Draft) (word : Text) : Except Refusal Draft :=
  if d.isAwaiting then
    match word with
    | '-' :: _ :: _ => .error (.usage "a value is required")
    | value => d.setFile value
  else if d.isLiteral then d.addWord word
  else match word with
    | '-' :: '-' :: [] =>
      if d.verb.isNone then .error (.usage "unexpected argument '--' found")
      else .ok { d with isLiteral := true }
    | '-' :: '-' :: name => d.addLong name
    | '-' :: c :: rest => d.addShort (c :: rest)
    | word => d.addWord word

def clashes (flags : Flags) : Bool := flags.isQuiet && flags.isVerbose

def finish (d : Draft) : Except Refusal Invocation :=
  if d.isAwaiting then .error (.usage "a value is required")
  else if clashes d.outer || clashes d.inner then
    .error (.usage "the argument '--quiet' cannot be used with '--verbose'")
  else match d.verb, d.input with
    | none, _ => .error (.usage "a subcommand is required")
    | some _, none => .error (.usage "the following required arguments were not provided: <INPUT>")
    | some verb, some input =>
      .ok ⟨verb, input, d.file, d.outer.isQuiet || d.inner.isQuiet,
        d.outer.isVerbose || d.inner.isVerbose⟩

end Draft

def read (words : List Text) : Except Refusal Invocation := do
  (← words.foldlM Draft.add {}).finish

end CommandLine

end StubCompiler
