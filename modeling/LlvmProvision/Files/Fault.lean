/-!
# What can go wrong with files and processes

The operating system refuses an operation with a numbered error.  A text with a NUL
character is refused before the system is asked, and a tool may report a failure in
words of its own.  `Fault.message` is the wording of each.
-/
namespace LlvmProvision.Files

/-- The errors of the operating system that files and processes run into. -/
inductive SystemError
  | notPermitted
  | noEntry
  | argumentsTooLong
  | badProgram
  | tryAgain
  | outOfMemory
  | accessDenied
  | alreadyExists
  | notDirectory
  | isDirectory
  | invalidArgument
  | tooManyOpenFiles
  | noSpace
  | nameTooLong
  | notEmpty
  | tooManyLinks
  deriving DecidableEq, Repr

namespace SystemError

/-- Every error, in the order of the numbers. -/
def all : List SystemError :=
  [notPermitted, noEntry, argumentsTooLong, badProgram, tryAgain, outOfMemory, accessDenied,
   alreadyExists, notDirectory, isDirectory, invalidArgument, tooManyOpenFiles, noSpace,
   nameTooLong, notEmpty, tooManyLinks]

/-- The number by which the system reports the error. -/
def number : SystemError → Nat
  | notPermitted => 1
  | noEntry => 2
  | argumentsTooLong => 7
  | badProgram => 8
  | tryAgain => 11
  | outOfMemory => 12
  | accessDenied => 13
  | alreadyExists => 17
  | notDirectory => 20
  | isDirectory => 21
  | invalidArgument => 22
  | tooManyOpenFiles => 24
  | noSpace => 28
  | nameTooLong => 36
  | notEmpty => 39
  | tooManyLinks => 40

/-- The error in words. -/
def text : SystemError → String
  | notPermitted => "Operation not permitted"
  | noEntry => "No such file or directory"
  | argumentsTooLong => "Argument list too long"
  | badProgram => "Exec format error"
  | tryAgain => "Resource temporarily unavailable"
  | outOfMemory => "Cannot allocate memory"
  | accessDenied => "Permission denied"
  | alreadyExists => "File exists"
  | notDirectory => "Not a directory"
  | isDirectory => "Is a directory"
  | invalidArgument => "Invalid argument"
  | tooManyOpenFiles => "Too many open files"
  | noSpace => "No space left on device"
  | nameTooLong => "File name too long"
  | notEmpty => "Directory not empty"
  | tooManyLinks => "Too many levels of symbolic links"

/-- The error with a number, if it is one of these. -/
def ofNumber? (n : Nat) : Option SystemError := all.find? fun e => e.number = n

end SystemError

/-- A failed operation on files or processes. -/
inductive Fault
  /-- The operating system refused it. -/
  | system (error : SystemError)
  /-- A path holds a NUL character. -/
  | nulInPath
  /-- A program name, an argument or a working directory holds a NUL character. -/
  | nulInCommand
  /-- It failed with a text of its own. -/
  | other (text : String)
  deriving DecidableEq, Repr

/-- The fault in words; a numbered error shows its number. -/
def Fault.message : Fault → String
  | system error => error.text ++ " (os error " ++ toString error.number ++ ")"
  | nulInPath => "file name contained an unexpected NUL byte"
  | nulInCommand => "nul byte found in provided data"
  | other text => text

end LlvmProvision.Files
