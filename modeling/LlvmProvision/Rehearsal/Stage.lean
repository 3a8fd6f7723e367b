import LlvmProvision.Files.Operations
import LlvmProvision.Rehearsal.Script

/-!
# The stage of a rehearsal

There are two ways of putting a script on.  The tools may stand in for themselves, so that
a call goes straight to its part.  Or programs are launched as the operating system does
it: the working directory is entered first, then the program is looked for, and only what
can be started plays its part.
-/
namespace LlvmProvision.Rehearsal

open Files Tools

/-- How calls reach their parts. -/
inductive Manner
  /-- A call goes straight to its part. -/
  | direct
  /-- A program is launched for each call. -/
  | launched
  deriving DecidableEq, Repr

/-- All that a rehearsal is set up with. -/
structure Stage where
  manner : Manner
  /-- The working directory, from which the paths in the script start. -/
  here : Location
  coloured : Bool
  /-- The tools that are not installed. -/
  missing : List String
  script : Script

namespace Stage

/-- The programs that can be launched unless they are missing. -/
def programs : List String := ["git", "cmake", "tar"]

/-- A reply of something that was not started. -/
def unstarted (fault : Fault) (files : Tree) : Reply := ⟨.unstarted fault, "", files⟩

/-- Plays a part. -/
def play (stage : Stage) (part : Part) (audible : Bool) (files : Tree) : Reply where
  outcome := part.outcome
  printed := if audible then part.printed else ""
  files := Change.applyAll stage.here part.changes files

/-- What comes of a call that goes straight to its part. -/
def respondDirectly (stage : Stage) (call : Call) (files : Tree) : Reply :=
  if call.tool ∈ stage.missing then unstarted (.system .noEntry) files
  else
    match call with
    | .check tool => stage.play (stage.script.part (.check tool)) false files
    | .run command =>
      stage.play (stage.script.part (.ofRun command.program command.arguments)) true files

/-- Whether a text can be handed to the system. -/
def isClean (text : String) : Bool := !text.toList.contains '\x00'

/-- The directory in which a program starts. -/
def startingDirectory (stage : Stage) (directory : Option Path) (files : Tree) :
    Except Fault Location :=
  match directory with
  | none => .ok stage.here
  | some path =>
    match files.resolve stage.here path with
    | .error fault => .error fault
    | .ok place =>
      if files.node? place = some .directory then .ok place
      else .error (.system .notDirectory)

/-- Whether a program can be started in a directory.  A name with a slash is a path, and
there are no programs among the files.  Any other name is looked up where the programs
are, and the single and the double dot are directories there. -/
def lookFor (stage : Stage) (program : String) (start : Location) (files : Tree) :
    Except Fault Unit :=
  if '/' ∈ program.toList then
    match files.resolve start ⟨program⟩ with
    | .ok _ => .error (.system .accessDenied)
    | .error fault => .error fault
  else if nameLimit < program.utf8ByteSize then .error (.system .nameTooLong)
  else if program = "." ∨ program = ".." then .error (.system .accessDenied)
  else if program ∈ programs ∧ program ∉ stage.missing then .ok ()
  else .error (.system .noEntry)

/-- The bytes that are too many for an argument. -/
def argumentLimit : Nat := 131072

/-- Launches a program. -/
def launch (stage : Stage) (program : String) (arguments : List String)
    (directory : Option Path) (files : Tree) : Except Fault Unit :=
  let texts := program :: arguments ++ (directory.map Path.text).toList
  if texts.all isClean then
    match stage.startingDirectory directory files with
    | .error fault => .error fault
    | .ok start =>
      match stage.lookFor program start files with
      | .error fault => .error fault
      | .ok () =>
        if arguments.any fun argument => argumentLimit ≤ argument.utf8ByteSize then
          .error (.system .argumentsTooLong)
        else .ok ()
  else .error .nulInCommand

/-- The cue of a launched program. -/
def launchCue (program : String) (arguments : List String) : Cue :=
  if arguments = ["--version"] then .check program else .ofRun program arguments

/-- What comes of a program that is launched. -/
def respondLaunched (stage : Stage) (program : String) (arguments : List String)
    (directory : Option Path) (audible : Bool) (files : Tree) : Reply :=
  match stage.launch program arguments directory files with
  | .error fault => unstarted fault files
  | .ok () =>
    let part := stage.script.part (launchCue program arguments)
    match part.outcome with
    | .unstarted fault => unstarted fault files
    | .ended _ => stage.play part audible files

/-- What comes of a call. -/
def respond (stage : Stage) (call : Call) (files : Tree) : Reply :=
  match stage.manner, call with
  | .direct, _ => stage.respondDirectly call files
  | .launched, .check tool => stage.respondLaunched tool ["--version"] none false files
  | .launched, .run command =>
    stage.respondLaunched command.program command.arguments command.directory true files

/-- The surroundings of a run in rehearsal. -/
def host (stage : Stage) : Host := ⟨stage.here, stage.coloured, stage.respond⟩

end Stage

end LlvmProvision.Rehearsal
