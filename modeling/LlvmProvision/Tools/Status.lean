/-!
# How a process ends

A process ends by itself with a code, of which zero means success, or is killed by a
signal, and may then leave an image of its memory behind.
-/
namespace LlvmProvision.Tools

/-- How a process ended. -/
inductive ExitStatus
  | exited (code : Nat)
  | killed (signal : Nat) (dumped : Bool)
  deriving DecidableEq, Repr

namespace ExitStatus

/-- A process succeeds by exiting with zero. -/
def isSuccess (status : ExitStatus) : Bool := status = exited 0

/-- The names of the signals in the order of their numbers, from one on. -/
def signalNames : List String :=
  ["SIGHUP", "SIGINT", "SIGQUIT", "SIGILL", "SIGTRAP", "SIGABRT", "SIGBUS", "SIGFPE",
   "SIGKILL", "SIGUSR1", "SIGSEGV", "SIGUSR2", "SIGPIPE", "SIGALRM", "SIGTERM", "SIGSTKFLT",
   "SIGCHLD", "SIGCONT", "SIGSTOP", "SIGTSTP", "SIGTTIN", "SIGTTOU", "SIGURG", "SIGXCPU",
   "SIGXFSZ", "SIGVTALRM", "SIGPROF", "SIGWINCH", "SIGIO", "SIGPWR", "SIGSYS"]

/-- The name of a signal, if it has one. -/
def signalName? (signal : Nat) : Option String :=
  if signal = 0 then none else signalNames[signal - 1]?

/-- A signal by its number, and by its name if it has one. -/
def shownSignal (signal : Nat) : String :=
  match signalName? signal with
  | some name => toString signal ++ " (" ++ name ++ ")"
  | none => toString signal

/-- The status in words. -/
def message : ExitStatus → String
  | exited code => "exit status: " ++ toString code
  | killed signal dumped =>
    "signal: " ++ shownSignal signal ++ (if dumped then " (core dumped)" else "")

/-- The status in a number as the system packs it: seven bits hold the signal, the eighth
says whether there is a memory image, and the next eight hold the code. -/
def unpack (packed : Nat) : ExitStatus :=
  if packed % 128 = 0 then exited (packed / 256 % 256)
  else killed (packed % 128) (packed / 128 % 2 = 1)

end ExitStatus

end LlvmProvision.Tools
