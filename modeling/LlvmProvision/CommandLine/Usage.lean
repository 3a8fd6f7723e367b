import LlvmProvision.Text.Blank

/-!
# The reminder of the usage

The complaint about a faulty command line ends with a reminder of how the program is used.
Where the complaint is wanted in brief, the reminder is left out (`withoutReminder`).  It is
known by its first words alone, so that a complaint which quotes these words ends there.
-/
namespace LlvmProvision.CommandLine.Usage

/-- The words that begin the reminder. -/
def mark : String := "\n\nUSAGE:"

/-- The reminder. -/
def reminder : String := mark ++ "\n    build-llvm [OPTIONS]\n\nFor more information try --help"

/-- The text up to the first place where `words` stand, if they stand anywhere. -/
def upTo? (words : List Char) : List Char → Option (List Char)
  | [] => if words = [] then some [] else none
  | c :: rest =>
    if words.isPrefixOf (c :: rest) then some []
    else (upTo? words rest).map (c :: ·)

/-- A complaint up to the first mark, without the white space in front of the mark.  A
complaint without a mark stays as it is. -/
def withoutReminder (complaint : String) : String :=
  match upTo? mark.toList complaint.toList with
  | some text => String.ofList (Text.trimEnd text)
  | none => complaint

end LlvmProvision.CommandLine.Usage
