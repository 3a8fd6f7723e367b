import LlvmProvision.Text.Quoted

/-!
# Closed choices

Some settings are one of a few names: the processor backend, the extra project, the
platform.  Each is a type with one value per name; `Choice` gives the names, in the order
in which messages list them, and `Choice.read` finds the value of a name.
-/
namespace LlvmProvision

/-- A type whose values are told apart by name. -/
class Choice (α : Type) where
  /-- The values, in the order in which they are listed. -/
  members : List α
  /-- What a value is called. -/
  name : α → String
  /-- How a message about a wrong name begins. -/
  complaint : String

/-- A text that names no value of a choice. -/
structure UnknownName where
  complaint : String
  text : String
  expected : List String
  deriving DecidableEq, Repr

/-- The complaint in words. -/
def UnknownName.message (unknown : UnknownName) : String :=
  unknown.complaint ++ " `" ++ unknown.text ++ "`, expected one of " ++
    Text.Quoted.quoteList unknown.expected

namespace Choice

/-- The names of a choice, as they are listed. -/
def names (α : Type) [Choice α] : List String := (members : List α).map name

/-- The value with a name, if there is one. -/
def find? (α : Type) [Choice α] (text : String) : Option α :=
  (members : List α).find? fun member => name member = text

/-- The value with a name. -/
def read (α : Type) [Choice α] (text : String) : Except UnknownName α :=
  match find? α text with
  | some member => .ok member
  | none => .error ⟨complaint α, text, names α⟩

/-- The values with the names, or the complaint about the first wrong one. -/
def readAll (α : Type) [Choice α] : List String → Except UnknownName (List α)
  | [] => .ok []
  | text :: texts =>
    match read α text with
    | .error unknown => .error unknown
    | .ok member => (readAll α texts).map (member :: ·)

end Choice

/-- The processors that code can be generated for. -/
inductive Backend
  | riscv
  | x86
  deriving DecidableEq, Repr

/-- The projects that can be built along. -/
inductive Project
  | clang
  | lldb
  deriving DecidableEq, Repr

/-- The platforms that are supported. -/
inductive Platform
  | linux
  deriving DecidableEq, Repr

instance : Choice Backend where
  members := [.riscv, .x86]
  name
    | .riscv => "RISCV"
    | .x86 => "X86"
  complaint := "Unknown backend"

instance : Choice Project where
  members := [.clang, .lldb]
  name
    | .clang => "clang"
    | .lldb => "lldb"
  complaint := "Unknown project"

instance : Choice Platform where
  members := [.linux]
  name
    | .linux => "linux"
  complaint := "Unsupported platform"

namespace Backend

/-- The backend that is built when none is asked for. -/
def default : Backend := x86

/-- A backend is read back from its name. -/
theorem read_name (backend : Backend) :
    Choice.read Backend (Choice.name backend) = .ok backend := by
  cases backend <;> rfl

end Backend

namespace Project

/-- Whether the project has to be linked against libxml2. -/
def needsLibxml2 : Project → Bool
  | clang => false
  | lldb => true

/-- A project is read back from its name. -/
theorem read_name (project : Project) :
    Choice.read Project (Choice.name project) = .ok project := by
  cases project <;> rfl

end Project

namespace Platform

/-- The platform that is assumed when none is given. -/
def default : Platform := linux

end Platform

end LlvmProvision
