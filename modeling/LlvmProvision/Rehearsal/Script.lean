import LlvmProvision.Files.Change
import LlvmProvision.Tools.Host

/-!
# Scripts

In a rehearsal no tool is really run.  A script says for each kind of call what a tool
would print, what it would do to the files, and how it would end.  A call that the script
does not mention succeeds without doing anything.
-/
namespace LlvmProvision.Rehearsal

open Files Tools

/-- The kinds of calls that a script tells apart. -/
inductive Cue
  /-- A tool is asked for its version. -/
  | check (tool : String)
  /-- A program is run. -/
  | run (program : String)
  /-- A program is run to build something. -/
  | build (program : String)
  deriving DecidableEq, Repr

/-- The name under which a script mentions a cue. -/
def Cue.key : Cue → String
  | check tool => "check:" ++ tool
  | run program => "run:" ++ program
  | build program => "run:" ++ program ++ "-build"

/-- The cue of a program that is run with some arguments. -/
def Cue.ofRun (program : String) (arguments : List String) : Cue :=
  if arguments.head? = some "--build" then build program else run program

/-- What a tool does when it is called. -/
structure Part where
  printed : String
  changes : List Change
  outcome : Outcome
  deriving DecidableEq, Repr

/-- Succeeding without doing anything. -/
def Part.idle : Part := ⟨"", [], .ended (.exited 0)⟩

/-- The parts of the tools, by the keys of their cues. -/
abbrev Script := List (String × Part)

/-- The part for a cue. -/
def Script.part (script : Script) (cue : Cue) : Part := (script.lookup cue.key).getD .idle

end LlvmProvision.Rehearsal
