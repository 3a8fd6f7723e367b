import LlvmProvision.CommandLine.Setting
import LlvmProvision.CommandLine.Usage
import LlvmProvision.Text.Numeral

/-!
# Command lines that start no run

A command line may ask for the help text or the version instead of a run, or it may be
faulty.  `Refusal.message` is what is shown then.
-/
namespace LlvmProvision.CommandLine

/-- Why a number of jobs is not accepted. -/
inductive JobsFault
  | unreadable (fault : Text.Numeral.Fault)
  | zero
  deriving DecidableEq, Repr

/-- The fault in words. -/
def JobsFault.message : JobsFault → String
  | unreadable fault => fault.message
  | zero => "number would be zero for non-zero type"

/-- Why a command line starts no run. -/
inductive Refusal
  /-- The help text was asked for. -/
  | help
  /-- The version was asked for. -/
  | version
  /-- An argument that stands for nothing. -/
  | unknownArgument (text : String)
  /-- A value that is not one of the accepted ones. -/
  | invalidValue (setting : Setting) (value : String)
  /-- A setting without a value. -/
  | emptyValue (setting : Setting)
  /-- A single setting given several times. -/
  | repeatedSetting (setting : Setting)
  /-- A number of jobs that cannot be used. -/
  | invalidJobs (fault : JobsFault)
  deriving DecidableEq, Repr

namespace Refusal

/-- The name and version of the program. -/
def versionText : String := "build-llvm 1.3.0"

/-- The lines of the help text. -/
def helpLines : List String :=
  [versionText,
   "Builds the necessary LLVM libraries",
   "",
   "USAGE:",
   "    build-llvm [OPTIONS]",
   "",
   "FLAGS:",
   "    -h, --help       Prints help information",
   "    -V, --version    Prints version information",
   "",
   "OPTIONS:",
   "        --arch <arch>...                     The LLVM backends, separated by spaces, " ++
     "like `--arch RISCV X86` [possible",
   "                                             values: RISCV, X86]",
   "        --deps-directory <deps-directory>    The dependency root the LLVM source tree " ++
     "is cloned into [default:",
   "                                             ./runtime/deps]",
   "        --jobs <jobs>                        The build parallelism. Defaults to the " ++
     "number of logical CPUs",
   "        --platform <platform>                The current platform [default: linux]  " ++
     "[possible values: linux]",
   "        --project <project>...               The extra LLVM projects, separated by " ++
     "spaces, like `--project clang lldb`",
   "                                             [possible values: clang, lldb]"]

/-- The help text. -/
def helpText : String := Text.joined "\n" helpLines

/-- What is shown. -/
def message : Refusal → String
  | help => helpText
  | version => versionText
  | unknownArgument text =>
    "error: Found argument '" ++ text ++
      "' which wasn't expected, or isn't valid in this context"
  | invalidValue setting value =>
    "error: '" ++ value ++ "' isn't a valid value for '" ++ setting.usage ++ "'" ++
      "\n\t[possible values: " ++ Text.joined ", " (setting.accepted?.getD []) ++ "]"
  | emptyValue setting =>
    "error: The argument '" ++ setting.usage ++ "' requires a value but none was supplied"
  | repeatedSetting setting =>
    "error: The argument '" ++ setting.usage ++
      "' was provided more than once, but cannot be used multiple times"
  | invalidJobs fault =>
    "error: Invalid value for '" ++ Setting.jobs.usage ++ "': " ++ fault.message

/-- Asking for the help text or the version is no fault. -/
def isFault : Refusal → Bool
  | help | version => false
  | _ => true

/-- What follows the message of a fault.  A number of jobs is judged on its own, so its
fault is not followed by a reminder. -/
def advice : Refusal → String
  | help | version | invalidJobs _ => ""
  | _ => Usage.reminder

/-- The message of a fault and what follows it, in brief.  What was asked for is shown in
full. -/
def brief (refusal : Refusal) : String :=
  if refusal.isFault then Usage.withoutReminder (refusal.message ++ refusal.advice)
  else refusal.message

end Refusal

end LlvmProvision.CommandLine
