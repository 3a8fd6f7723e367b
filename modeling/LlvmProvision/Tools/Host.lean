import LlvmProvision.Files.Fault
import LlvmProvision.Files.Tree
import LlvmProvision.Tools.Status

/-!
# Tools and the host that runs them

The work is done by tools: programs that the host can be asked for (`Call.check`) or told
to run (`Call.run`).  A tool may do anything to the files and print anything, and it may
fail to start or to finish.  A `Host` says what comes of each call, as a function of the
call and of the files at that time.  No two calls of one run are equal, so such a function
covers every behaviour that the tools can show during a run.
-/
namespace LlvmProvision.Tools

open Files

/-- A program to run. -/
structure Command where
  program : String
  arguments : List String
  /-- The directory it starts in, if not that of the caller. -/
  directory : Option Path
  /-- What it is run for, as error messages put it. -/
  purpose : String
  deriving DecidableEq, Repr

/-- A request to the host. -/
inductive Call
  /-- Find out whether a tool can be run. -/
  | check (tool : String)
  /-- Run a command to its end. -/
  | run (command : Command)
  deriving DecidableEq, Repr

/-- The program that a call is about. -/
def Call.tool : Call → String
  | check tool => tool
  | run command => command.program

/-- What came of starting a program. -/
inductive Outcome
  | ended (status : ExitStatus)
  | unstarted (fault : Fault)
  deriving DecidableEq, Repr

/-- The program was started and ended well. -/
def Outcome.isSuccess : Outcome → Bool
  | ended status => status.isSuccess
  | unstarted _ => false

/-- All that a call leaves behind. -/
structure Reply where
  outcome : Outcome
  /-- What appeared on the standard output. -/
  printed : String
  /-- The files afterwards. -/
  files : Tree

/-- The surroundings of a run. -/
structure Host where
  /-- The working directory. -/
  here : Location
  /-- Whether texts are coloured. -/
  coloured : Bool
  /-- What comes of a call. -/
  respond : Call → Tree → Reply

end LlvmProvision.Tools
