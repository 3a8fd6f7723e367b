import LlvmProvision.Files.Operations

/-!
# Moving a file

A file is moved by copying it over the target and removing the source.  The target is
opened, and thereby emptied, before anything is copied; a link at the target is followed.
So the target receives what the source holds after the target has been emptied, which is
nothing at all if both are the same file.
-/
namespace LlvmProvision.Files

/-- Why a file was not moved. -/
inductive MoveFault
  /-- There is nothing at the source. -/
  | sourceMissing (path : Path)
  /-- What is at the source is not a file. -/
  | sourceNotFile (path : Path)
  /-- Copying or removing failed. -/
  | refused (fault : Fault)
  deriving DecidableEq, Repr

/-- The faults that a failed move passes on in their own words. -/
def Fault.isPassedOn : Fault → Bool
  | .system .noEntry | .system .notPermitted | .system .accessDenied
  | .system .alreadyExists | .other _ => true
  | _ => false

/-- The fault in words.  The path of the source stands as it was spelled. -/
def MoveFault.message : MoveFault → String
  | sourceMissing path =>
    "Path \"" ++ path.text ++ "\" does not exist or you don't have access!"
  | sourceNotFile path => "Path \"" ++ path.text ++ "\" is not a file!"
  | refused fault =>
    if fault.isPassedOn then fault.message else "Io error. Look inside err_kind for more details."

namespace Tree

/-- Copies the text of a file over the target. -/
def copyFile (tree : Tree) (here : Location) (source target : Path) : Except Fault Tree :=
  match tree.writeFile here target "" with
  | .error fault => .error fault
  | .ok emptied => emptied.writeFile here target ((emptied.readFile? here source).getD "")

/-- Moves a file over the target. -/
def moveFile (tree : Tree) (here : Location) (source target : Path) :
    Except MoveFault Unit × Tree :=
  match tree.lookup? here source with
  | none => (.error (.sourceMissing source), tree)
  | some (.file _) =>
    match tree.copyFile here source target with
    | .error fault => (.error (.refused fault), tree)
    | .ok copied =>
      match copied.removeFile here source with
      | .error fault => (.error (.refused fault), copied)
      | .ok moved => (.ok (), moved)
  | some _ => (.error (.sourceNotFile source), tree)

end Tree

end LlvmProvision.Files
