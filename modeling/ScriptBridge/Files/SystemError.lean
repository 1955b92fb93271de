import ScriptBridge.Text.Quoted

/-!
# Errors of the file system

The ways in which an operation on files fails, with their numbers and texts.
-/
namespace ScriptBridge

inductive SystemError where
  | notFound
  | permissionDenied
  | alreadyExists
  | notADirectory
  | isADirectory
  | nameTooLong
  | linkLoop
  /-- A path holds a NUL byte and never reaches the system. -/
  | nulByte
  /-- The content of a file is not UTF-8. -/
  | invalidText
  deriving DecidableEq, Repr

namespace SystemError

/-- The system's number for the error; the last two causes are not the system's. -/
def number? : SystemError → Option Nat
  | .notFound => some 2
  | .permissionDenied => some 13
  | .alreadyExists => some 17
  | .notADirectory => some 20
  | .isADirectory => some 21
  | .nameTooLong => some 36
  | .linkLoop => some 40
  | .nulByte | .invalidText => none

def description : SystemError → String
  | .notFound => "No such file or directory"
  | .permissionDenied => "Permission denied"
  | .alreadyExists => "File exists"
  | .notADirectory => "Not a directory"
  | .isADirectory => "Is a directory"
  | .nameTooLong => "File name too long"
  | .linkLoop => "Too many levels of symbolic links"
  | .nulByte => "file name contained an unexpected NUL byte"
  | .invalidText => "stream did not contain valid UTF-8"

/-- The word for the class of the error. -/
def category : SystemError → String
  | .notFound => "NotFound"
  | .permissionDenied => "PermissionDenied"
  | .alreadyExists => "AlreadyExists"
  | .notADirectory => "NotADirectory"
  | .isADirectory => "IsADirectory"
  | .nameTooLong => "InvalidFilename"
  | .linkLoop => "FilesystemLoop"
  | .nulByte => "InvalidInput"
  | .invalidText => "InvalidData"

def message (error : SystemError) : String :=
  match error.number? with
  | some number => error.description ++ " (os error " ++ Numeral.ofNat number ++ ")"
  | none => error.description

/-- The error with its parts spelled out, as the command line reports it. -/
def details (error : SystemError) : String :=
  let tail := "kind: " ++ error.category ++ ", message: " ++ Text.quoted error.description ++ " \x7d"
  match error.number? with
  | some number => "Os \x7b code: " ++ Numeral.ofNat number ++ ", " ++ tail
  | none => "Error \x7b " ++ tail

end SystemError
end ScriptBridge
