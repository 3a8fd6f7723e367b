import LlvmProvision.Package

/-!
# The whole run

A run fetches the sources, builds the package and unpacks it, each part under a heading.
Each part does only what is not yet done, so a run that was interrupted can be repeated.
-/
namespace LlvmProvision

open Files

/-- What a run is asked for. -/
structure Request where
  /-- The dependency root. -/
  root : Path
  backends : List Backend
  projects : List Project
  /-- The number of jobs that the build may run at a time. -/
  jobs : Nat
  deriving DecidableEq, Repr

namespace Provision

/-- The dependency root of a run that names none. -/
def defaultRoot : Path := ⟨"./runtime/deps"⟩

/-- The heading of a part. -/
def heading (title : String) : Action Unit :=
  Action.printColoured .brightGreen
    ("==================== " ++ title ++ " ====================")

/-- A whole run. -/
def run (request : Request) : Action Unit := do
  let configuration := Configuration.ofLists request.backends request.projects
  heading "CLONE LLVM"
  let source ← SourceTree.fetch request.root SourceTree.repository SourceTree.branch
  Action.printLine ""
  heading "BUILD LLVM"
  let _ ← BuildTree.complete source configuration request.jobs
  Action.printLine ""
  heading "PACKAGE LLVM"
  let _ ← Package.unpack source
  Action.printLine ""

end Provision

end LlvmProvision
