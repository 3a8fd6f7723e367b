import LlvmProvision.Files.Move
import LlvmProvision.Tools.Host

/-!
# Errors of a run

A run ends early for one of these reasons.  Each constructor is a cause; the wording is
`Error.message`, in which directories and packages are quoted.
-/
namespace LlvmProvision

open Files Tools

/-- Why a run failed. -/
inductive Error
  /-- A tool cannot be run. -/
  | toolMissing (tool : String)
  /-- A command could not be started. -/
  | commandUnstarted (purpose : String) (fault : Fault)
  /-- A command ended badly. -/
  | commandFailed (purpose : String) (status : ExitStatus)
  /-- There is nothing to build. -/
  | sourceTreeMissing (source : Path)
  /-- The build left several packages. -/
  | ambiguousArchive (archives : List Path)
  /-- A directory could not be made. -/
  | notCreated (directory : Path) (fault : Fault)
  /-- The location of a directory could not be found out. -/
  | notResolved (directory : Path) (fault : Fault)
  /-- A directory could not be removed. -/
  | notRemoved (directory : Path) (fault : Fault)
  /-- A package could not be moved. -/
  | notMoved (archive : Path) (fault : MoveFault)
  deriving DecidableEq, Repr

namespace Error

/-- What became of a directory, in words. -/
def directoryMessage (directory : Path) (doing : String) (fault : Fault) : String :=
  "Directory " ++ directory.quoted ++ " " ++ doing ++ " error: " ++ fault.message

/-- The error in words. -/
def message : Error → String
  | toolMissing tool =>
    "The `" ++ tool ++ "` executable is not found. Please install it and try again"
  | commandUnstarted purpose fault => purpose ++ " process: " ++ fault.message
  | commandFailed purpose status => purpose ++ " failed: " ++ status.message
  | sourceTreeMissing source =>
    "The LLVM source tree " ++ source.quoted ++ " does not exist"
  | ambiguousArchive archives =>
    "Found more than one LLVM package: " ++ Text.Quoted.quoteList (archives.map Path.text)
  | notCreated directory fault => directoryMessage directory "creating" fault
  | notResolved directory fault => directoryMessage directory "resolving" fault
  | notRemoved directory fault => directoryMessage directory "removing" fault
  | notMoved archive fault =>
    "Package " ++ archive.quoted ++ " moving error: " ++ fault.message

end Error

end LlvmProvision
