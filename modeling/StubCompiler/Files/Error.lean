import StubCompiler.Text.Basic

/-!
# Errors of the file system

What can go wrong when a file is read or written, with the words in which the system reports it.
-/

namespace StubCompiler

inductive IoError where
  | notFound
  | permissionDenied
  | alreadyExists
  | notADirectory
  | isADirectory
  | nameTooLong
  /-- The content of a file is no text. -/
  | notUtf8
  /-- A path cannot hold the character NUL. -/
  | nulInPath
  /-- Any other error, in the words of the system. -/
  | other (message : Text)
deriving DecidableEq, Repr

def IoError.message : IoError → Text
  | .notFound => "No such file or directory (os error 2)"
  | .permissionDenied => "Permission denied (os error 13)"
  | .alreadyExists => "File exists (os error 17)"
  | .notADirectory => "Not a directory (os error 20)"
  | .isADirectory => "Is a directory (os error 21)"
  | .nameTooLong => "File name too long (os error 36)"
  | .notUtf8 => "stream did not contain valid UTF-8"
  | .nulInPath => "file name contained an unexpected NUL byte"
  | .other message => message

end StubCompiler
