/-!
# Archive names

The package of a finished build is a compressed archive whose name begins with the
version and ends in `.tar.gz`.  Such names are described by a pattern: texts that have to
stand as they are, and runs of any characters but line feeds.  `Pattern.accepts` tries
every length of a run; `IsArchiveName` says outright what the pattern of archives is
meant to accept.
-/
namespace LlvmProvision

/-- A part of a pattern. -/
inductive Piece
  /-- The text itself. -/
  | literal (text : String)
  /-- Any number of characters other than line feeds. -/
  | anything
  deriving DecidableEq, Repr

/-- A pattern for whole texts. -/
abbrev Pattern := List Piece

namespace Pattern

/-- What follows `text` at the front, if it stands there. -/
def after? : List Char → List Char → Option (List Char)
  | [], rest => some rest
  | _ :: _, [] => none
  | c :: cs, d :: ds => if c = d then after? cs ds else none

/-- Whether what follows a run is accepted, for some length of the run. -/
def afterRun (accepts : List Char → Bool) : List Char → Bool
  | [] => accepts []
  | c :: cs => accepts (c :: cs) || (c ≠ '\n' && afterRun accepts cs)

/-- Whether the pattern fits the characters from the first to the last. -/
def accepts : Pattern → List Char → Bool
  | [], cs => cs.isEmpty
  | .literal text :: pieces, cs =>
    match after? text.toList cs with
    | some rest => accepts pieces rest
    | none => false
  | .anything :: pieces, cs => afterRun (accepts pieces) cs

/-- The characters that stand for something else in the notation of patterns. -/
def reserved : List Char :=
  ['\\', '.', '+', '*', '?', '(', ')', '|', '[', ']', '\x7b', '\x7d', '^', '$']

/-- How a piece is spelled in the usual notation of patterns. -/
def spellPiece : Piece → List Char
  | .literal text => text.toList.flatMap fun c => if c ∈ reserved then ['\\', c] else [c]
  | .anything => ['.', '*']

/-- How a pattern for whole texts is spelled in the usual notation. -/
def spelled (pattern : Pattern) : String :=
  String.ofList ('^' :: pattern.flatMap spellPiece ++ ['$'])

end Pattern

namespace Archive

/-- How the name of an archive begins. -/
def nameStart : String := "LLVM-16"

/-- How the name of an archive ends. -/
def nameEnd : String := ".tar.gz"

/-- The pattern of archive names. -/
def pattern : Pattern := [.literal nameStart, .anything, .literal nameEnd]

/-- Whether a name is that of an archive. -/
def isArchiveName (name : String) : Bool := pattern.accepts name.toList

/-- What the pattern is meant to accept: the start and the end, which do not overlap, and
between them any text on one line. -/
def IsArchiveName (name : String) : Prop :=
  ∃ middle : List Char, '\n' ∉ middle ∧
    name.toList = nameStart.toList ++ middle ++ nameEnd.toList

end Archive

end LlvmProvision
