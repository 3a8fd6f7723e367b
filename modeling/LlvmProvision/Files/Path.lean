import LlvmProvision.Text.Fields
import LlvmProvision.Text.Quoted

/-!
# Paths

A path is kept exactly as it was spelled, since messages and commands show it so.
Joining adds a slash only where one is needed (`join`), and only `steps` looks at
the names: it reads a spelling as the moves that lead from the working directory,
or from the root, to the place that is meant.
-/
namespace LlvmProvision.Files

/-- A path as it was spelled. -/
structure Path where
  text : String
  deriving DecidableEq, Repr

/-- One move along a path. -/
inductive Step
  /-- The single dot: stay in this directory. -/
  | stay
  /-- The double dot: go up one directory. -/
  | up
  /-- Go into the entry with a name. -/
  | enter (name : String)
  /-- A slash at the end: what has been reached has to be a directory. -/
  | slash
  deriving DecidableEq, Repr

/-- The move that a name in a path stands for. -/
def Step.ofName (name : String) : Step :=
  if name = "." then stay else if name = ".." then up else enter name

namespace Path

/-- A path is absolute if it starts at the root. -/
def isAbsolute (path : Path) : Bool := path.text.toList.head? = some '/'

/-- Whether the last character is a slash. -/
def endsInSlash (path : Path) : Bool := path.text.toList.getLast? = some '/'

/-- Appends `part` to a path.  An absolute part replaces the path, nothing is put in
front of it if the path is empty, and a slash comes between the two unless the path
already ends in one. -/
def join (path : Path) (part : String) : Path :=
  if isAbsolute ⟨part⟩ ∨ path.text = "" then ⟨part⟩
  else if path.endsInSlash then ⟨path.text ++ part⟩
  else ⟨path.text ++ "/" ++ part⟩

instance : HDiv Path String Path := ⟨join⟩

/-- The path in quotes, as messages show it. -/
def quoted (path : Path) : String := Text.Quoted.quote path.text

/-- The names between the slashes; several slashes count as one. -/
def names (path : Path) : List String := (Text.fields '/' path.text).filter (· ≠ "")

/-- The moves to the entry that the path names, a slash at the end ignored. -/
def entrySteps (path : Path) : List Step := path.names.map Step.ofName

/-- The moves along the path.  A slash behind the last name is a move of its own. -/
def steps (path : Path) : List Step :=
  if path.endsInSlash ∧ path.names ≠ [] then path.entrySteps ++ [.slash] else path.entrySteps

/-- The names that tell the path from the one above it: single dots count only at the
start of a relative path. -/
def significantNames (path : Path) : List String :=
  match path.isAbsolute, path.names with
  | false, "." :: rest => "." :: rest.filter (· ≠ ".")
  | _, names => names.filter (· ≠ ".")

/-- What the paths above a path start with: the root, or nothing for a relative path. -/
def start (path : Path) : String := if path.isAbsolute then "/" else ""

/-- The path along some names, the last name first. -/
def along (start : String) (names : List String) : Path :=
  ⟨start ++ Text.joined "/" names.reverse⟩

theorem join_empty {part : String} : (⟨""⟩ : Path) / part = ⟨part⟩ := by
  simp [HDiv.hDiv, join]

/-- Joining with a relative part only ever adds to the spelling. -/
theorem join_text {path : Path} {part : String} (relative : isAbsolute ⟨part⟩ = false)
    (nonempty : path.text ≠ "") :
    (path / part).text = path.text ++ (if path.endsInSlash then "" else "/") ++ part := by
  by_cases h : path.endsInSlash <;> simp [HDiv.hDiv, join, relative, nonempty, h]

end Path

end LlvmProvision.Files
