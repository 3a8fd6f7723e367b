import LlvmProvision.Program
import LlvmProvision.Rehearsal.Stage

/-!
# The command line program

The program as a dry run: it starts from no files at all, and the tools stand in for
themselves, each leaving behind the least that a real one would.  So it shows what a first
run would print and how it would end, without touching anything.
-/
namespace LlvmProvision

open Files Rehearsal

/-- What the tools leave behind in a dry run below a dependency root. -/
def dryScript (root : Path) : Script :=
  let source := root / SourceTree.directoryName
  let build := source / BuildTree.directoryName
  let archive := Archive.nameStart ++ Archive.nameEnd
  [ ((Cue.run "git").key, { Part.idle with changes := [.directory source] }),
    ((Cue.build "cmake").key,
      { Part.idle with
        changes := [.file (build / BuildTree.marker) "" 1, .file (build / archive) "" 1] }) ]

/-- The stage of a dry run. -/
def dryStage (words : List String) : Stage where
  manner := .direct
  here := []
  coloured := false
  missing := []
  script :=
    match CommandLine.Arguments.parse words with
    | .ok arguments => dryScript arguments.root
    | .error _ => []

end LlvmProvision

open LlvmProvision in
/-- Runs the program on a command line and hands its exit code to the system. -/
def main (words : List String) : IO UInt32 := do
  let (ending, session) :=
    Program.run 1 words (dryStage words).host (Session.start Files.Tree.empty)
  IO.print session.output
  IO.eprint ending.complaint
  return UInt32.ofNat ending.code
