import LlvmProvision.CommandLine.Arguments

/-!
# The program

What the program does with its command line.  A command line that starts no run only
shows why.  Otherwise the arguments are shown, the run takes place, and its end is told:
on the standard output if it went well, on the standard error if not.
-/
namespace LlvmProvision.Program

open Files Tools Text CommandLine

/-- The exit code of success. -/
def exitSuccess : Nat := 0

/-- The exit code of failure. -/
def exitFailure : Nat := 1

/-- How the program ends. -/
structure Ending where
  code : Nat
  /-- What appeared on the standard error. -/
  complaint : String
  deriving DecidableEq, Repr

/-- The name under which a backend is shown among the arguments. -/
def shownBackend : Backend → String
  | .riscv => "RISCV"
  | .x86 => "X86"

/-- The name under which a project is shown among the arguments. -/
def shownProject : Project → String
  | .clang => "Clang"
  | .lldb => "Lldb"

/-- The name under which a platform is shown among the arguments. -/
def shownPlatform : Platform → String
  | .linux => "Linux"

/-- A list of names in square brackets. -/
def shownList (names : List String) : String := "[" ++ joined ", " names ++ "]"

/-- The number of jobs as it is shown among the arguments. -/
def shownJobs : Option JobCount → String
  | some jobs => "Some(" ++ toString jobs.count ++ ")"
  | none => "None"

/-- The arguments as the program shows them. -/
def shownArguments (arguments : Arguments) : String :=
  "Arguments \x7b platform: " ++ shownPlatform arguments.platform ++
    ", arch: " ++ shownList (arguments.backends.map shownBackend) ++
    ", project: " ++ shownList (arguments.projects.map shownProject) ++
    ", deps_directory: " ++ arguments.root.quoted ++
    ", jobs: " ++ shownJobs arguments.jobs ++ " \x7d"

/-- The run that the arguments ask for.  Without a number of jobs there is one for each
processor. -/
def request (processors : Nat) (arguments : Arguments) : Request where
  root := arguments.root
  backends := arguments.backends
  projects := arguments.projects
  jobs := (arguments.jobs.map JobCount.count).getD processors

/-- What the program does once its arguments are known. -/
def perform (processors : Nat) (arguments : Arguments) : Action Unit := do
  Action.printLine ("options=" ++ shownArguments arguments)
  Action.printColoured .brightBlue
    ("========== Build LLVM for " ++ Choice.name arguments.platform ++ " ==========")
  Action.printLine ""
  Provision.run (request processors arguments)
  Action.printColoured .brightGreen "LLVM is ready"

/-- What is shown for a command line that starts no run.  What was asked for goes to the
standard output, a fault to the standard error. -/
def refuse (refusal : Refusal) (session : Session) : Ending × Session :=
  if refusal.isFault then
    (⟨exitFailure, refusal.message ++ refusal.advice ++ "\n"⟩, session)
  else (⟨exitSuccess, ""⟩, session.record (.printed (refusal.message ++ "\n")))

/-- The end of a run. -/
def conclude (coloured : Bool) : Except Error Unit → Ending
  | .ok () => ⟨exitSuccess, ""⟩
  | .error error => ⟨exitFailure, Colour.red.paint coloured error.message ++ "\n"⟩

/-- The program as a whole. -/
def run (processors : Nat) (words : List String) (host : Host) (session : Session) :
    Ending × Session :=
  match Arguments.parse words with
  | .error refusal => refuse refusal session
  | .ok arguments =>
    let (result, session) := perform processors arguments host session
    (conclude host.coloured result, session)

end LlvmProvision.Program
