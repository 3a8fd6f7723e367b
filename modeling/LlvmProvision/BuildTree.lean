import LlvmProvision.Configuration
import LlvmProvision.Shell.Words
import LlvmProvision.SourceTree

/-!
# The build tree

The libraries are built in a directory inside the source tree.  One library, which is
made late, marks a finished build; where it is found, nothing is built again.
-/
namespace LlvmProvision.BuildTree

open Files Tools

/-- The name of the build tree inside the source tree. -/
def directoryName : String := "build"

/-- The library that marks a finished build, from the build tree. -/
def marker : String := "lib/libLLVMCore.a"

/-- Where the sources of the core libraries are, from the build tree. -/
def sources : String := "../" ++ SourceTree.directoryName

/-- The arguments that configure a build. -/
def configureArguments (configuration : Configuration) : List String :=
  configuration.arguments ++ [sources]

/-- The command that configures a build. -/
def configureCommand (build : Path) (configuration : Configuration) : Command where
  program := "cmake"
  arguments := configureArguments configuration
  directory := some build
  purpose := "LLVM building cmake"

/-- The command that builds the package with so many jobs at a time. -/
def packageCommand (build : Path) (jobs : Nat) : Command where
  program := "cmake"
  arguments := ["--build", ".", "--target", "package", "--parallel", toString jobs]
  directory := some build
  purpose := "LLVM packaging cmake"

/-- Makes a directory unless something is there. -/
def ensureDirectory (directory : Path) : Action Unit := do
  if ← Action.look fun here files => files.isPresent here directory then pure ()
  else
    Action.change (Action.wholly fun here files => files.createDirectory here directory)
      (.notCreated directory)

/-- Builds the package in the build tree of the source tree, unless the marker is there,
and returns the path of the build tree. -/
def complete (source : Path) (configuration : Configuration) (jobs : Nat) : Action Path := do
  if ← Action.look fun here files => files.isPresent here source then
    let build := source / directoryName
    ensureDirectory build
    if ← Action.look fun here files => files.isPresent here (build / marker) then
      Action.printColoured .yellow
        ("Please remove " ++ build.quoted ++ " manually and try again")
      pure build
    else
      Action.check "cmake"
      Action.printLine
        ("cmake " ++ Shell.commandLine (configureArguments configuration))
      Action.execute (configureCommand build configuration)
      Action.execute (packageCommand build jobs)
      pure build
  else Action.fail (.sourceTreeMissing source)

end LlvmProvision.BuildTree
