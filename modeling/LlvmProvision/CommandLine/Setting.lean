import LlvmProvision.Choice
import LlvmProvision.Provision

/-!
# Settings on the command line

A command line sets five things, each by a name behind two dashes.  Two of them are lists:
they may be given several times and take several values each time.
-/
namespace LlvmProvision.CommandLine

/-- What can be set. -/
inductive Setting
  | platform
  | arch
  | project
  | depsDirectory
  | jobs
  deriving DecidableEq, Repr

namespace Setting

/-- The settings, in the order in which they are judged. -/
def all : List Setting := [platform, arch, project, depsDirectory, jobs]

/-- The name behind the dashes. -/
def name : Setting → String
  | platform => "platform"
  | arch => "arch"
  | project => "project"
  | depsDirectory => "deps-directory"
  | jobs => "jobs"

/-- Whether the setting is a list. -/
def isList : Setting → Bool
  | arch | project => true
  | platform | depsDirectory | jobs => false

/-- The setting with its value, as messages show it. -/
def usage (setting : Setting) : String :=
  "--" ++ setting.name ++ " <" ++ setting.name ++ ">" ++ (if setting.isList then "..." else "")

/-- The values that are accepted, if they are few. -/
def accepted? : Setting → Option (List String)
  | platform => some (Choice.names Platform)
  | arch => some (Choice.names Backend)
  | project => some (Choice.names Project)
  | depsDirectory | jobs => none

/-- The value of a setting that is given without one, or not at all. -/
def default? : Setting → Option String
  | platform => some (Choice.name Platform.default)
  | depsDirectory => some Provision.defaultRoot.text
  | arch | project | jobs => none

/-- The setting with a name. -/
def ofName? (text : String) : Option Setting := all.find? fun setting => setting.name = text

/-- The list of settings is complete. -/
theorem mem_all (setting : Setting) : setting ∈ all := by cases setting <;> decide

end Setting

end LlvmProvision.CommandLine
