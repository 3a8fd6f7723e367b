import LlvmProvision.Action
import LlvmProvision.Text.Quoted

/-!
# The source tree

The sources are kept in a directory of their own below the dependency root.  They are
fetched once; a tree that is there is used as it is, whatever it holds.
-/
namespace LlvmProvision.SourceTree

open Files Tools

/-- The name of the source tree below the dependency root. -/
def directoryName : String := "llvm"

/-- Where the sources come from. -/
def repository : String := "https://github.com/llvm/llvm-project.git"

/-- The branch of the sources that is built. -/
def branch : String := "release/16.x"

/-- The command that fetches a branch into the dependency root. -/
def cloneCommand (root : Path) (repository branch : String) : Command where
  program := "git"
  arguments := ["clone", "--depth", "1", "--branch", branch, repository, directoryName]
  directory := some root
  purpose := "LLVM cloning git"

/-- Makes sure of the dependency root and the source tree below it, and returns the path
of the source tree.  From here on the root is known by its location, not by the spelling
that was given. -/
def fetch (root : Path) (repository branch : String) : Action Path := do
  Action.change (fun here files => files.createAll here root) (.notCreated root)
  let place ← Action.require (fun here files => files.resolveFromRoot here root)
    (.notResolved root)
  let source := place.path / directoryName
  if ← Action.look fun here files => files.isPresent here source then
    Action.printLine
      ("There is an LLVM local repo in " ++ source.quoted ++ ", keep using it")
    pure source
  else
    Action.check "git"
    Action.printLine ("Clone LLVM to " ++ source.quoted ++ " ...")
    Action.execute (cloneCommand place.path repository branch)
    pure source

end LlvmProvision.SourceTree
