import LlvmProvision.Action
import LlvmProvision.Files.Listing
import LlvmProvision.Rehearsal.Stage

/-!
# The report of a rehearsal

A report lists the calls that reached a tool, each with what had been printed since the one
before and with the files as the tool found them.  What was printed after the last of them
stands at the end.
-/
namespace LlvmProvision.Rehearsal

open Files Tools

/-- What a tool saw of a call. -/
inductive Scene
  | check (tool : String)
  /-- A run program, with the directory it started in and what it was run for, as far as a
  tool is told. -/
  | run (program : String) (arguments : List String) (directory : Option String)
    (purpose : Option String)
  deriving DecidableEq, Repr

/-- A call that reached a tool. -/
structure Sighting where
  scene : Scene
  /-- What had been printed since the sighting before. -/
  printed : String
  /-- The files below the working directory. -/
  files : List Listed
  deriving DecidableEq, Repr

namespace Stage

/-- An argument as a tool that stands in for itself is shown it. -/
def shownArgument (argument : String) : String :=
  if isClean argument then argument else "<string-with-nul>"

/-- What the tool saw of a call, if the call reached it. -/
def scene? (stage : Stage) (call : Call) (files : Tree) (reply : Reply) : Option Scene :=
  match stage.manner, call, reply.outcome with
  | .direct, .check tool, _ => if tool ∈ stage.missing then none else some (.check tool)
  | .direct, .run command, _ =>
    if command.program ∈ stage.missing then none
    else
      some (.run (shownArgument command.program) (command.arguments.map shownArgument)
        (command.directory.map fun path => shownArgument path.text) (some command.purpose))
  | .launched, _, .unstarted _ => none
  | .launched, .check tool, .ended _ => some (.check tool)
  | .launched, .run command, .ended _ =>
    if command.arguments = ["--version"] then some (.check command.program)
    else
      match stage.startingDirectory command.directory files with
      | .ok place => some (.run command.program command.arguments place.path.text none)
      | .error _ => none

/-- The sightings among some events, and what was printed after the last.  `printed` is
what had been printed before the events, since the last sighting. -/
def sightings (stage : Stage) (printed : String) : List Event → List Sighting × String
  | [] => ([], printed)
  | .printed text :: events => stage.sightings (printed ++ text) events
  | .called call files reply :: events =>
    match stage.scene? call files reply with
    | none => stage.sightings (printed ++ reply.printed) events
    | some scene =>
      let (later, rest) := stage.sightings reply.printed events
      (⟨scene, printed, files.listing stage.here⟩ :: later, rest)

/-- The sightings of a session, and what was printed after the last. -/
def report (stage : Stage) (session : Session) : List Sighting × String :=
  stage.sightings "" session.events

end Stage

end LlvmProvision.Rehearsal
