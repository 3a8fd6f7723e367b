import LlvmProvision.CMake.Definition
import LlvmProvision.Choice

/-!
# The configuration of a build

A build is configured by the backends it generates code for, the projects built along and
the choice of libxml2, which follows from the projects where a configuration is asked for
(`Configuration.ofLists`).  `Configuration.arguments` are the definitions that CMake is given: a fixed
baseline, the choice of libxml2, the list of backends, and the list of projects if there
are any.
-/
namespace LlvmProvision

open CMake

/-- What is built.  There is always a backend. -/
structure Configuration where
  targets : List Backend
  projects : List Project
  /-- Whether LLVM is linked against libxml2. -/
  usesLibxml2 : Bool
  targets_ne_nil : targets ≠ []
  deriving DecidableEq

namespace Configuration

/-- The configuration asked for by lists of backends and projects.  Without a backend the
default one is built, and libxml2 is used if a project needs it. -/
def ofLists (backends : List Backend) (projects : List Project) : Configuration where
  targets := if backends = [] then [Backend.default] else backends
  projects := projects
  usesLibxml2 := projects.any Project.needsLibxml2
  targets_ne_nil := by
    split
    · exact List.cons_ne_nil _ _
    · assumption

/-- The definitions of every build. -/
def baseline : List Definition :=
  [⟨"CMAKE_BUILD_TYPE", .string, "Debug"⟩,
   ⟨"CMAKE_EXPORT_COMPILE_COMMANDS", .untyped, "ON"⟩,
   .switch "LLVM_APPEND_VC_REV" true,
   .switch "LLVM_BUILD_BENCHMARKS" false,
   .switch "LLVM_BUILD_DOCS" false,
   .switch "LLVM_BUILD_EXAMPLES" false,
   .switch "LLVM_BUILD_LLVM_DYLIB" false,
   .switch "LLVM_BUILD_TESTS" false,
   .switch "LLVM_CCACHE_BUILD" false,
   .switch "LLVM_ENABLE_BINDINGS" false,
   .switch "LLVM_ENABLE_IDE" false,
   .switch "LLVM_ENABLE_TERMINFO" false,
   .switch "LLVM_ENABLE_ZLIB" false,
   .switch "LLVM_INCLUDE_BENCHMARKS" false,
   .switch "LLVM_INCLUDE_DOCS" false,
   .switch "LLVM_INCLUDE_EXAMPLES" false,
   .switch "LLVM_INCLUDE_UTILS" false,
   .switch "LLVM_INCLUDE_TESTS" false,
   .switch "LLVM_OPTIMIZED_TABLEGEN" true]

/-- A list of choices as the value of one setting. -/
def listValue {α : Type} [Choice α] (members : List α) : String :=
  Text.joined ";" (members.map Choice.name)

/-- The choice of libxml2. -/
def libxml2Definition (configuration : Configuration) : Definition :=
  .switch "LLVM_ENABLE_LIBXML2" configuration.usesLibxml2

/-- The list of backends. -/
def targetsDefinition (configuration : Configuration) : Definition :=
  ⟨"LLVM_TARGETS_TO_BUILD", .string, listValue configuration.targets⟩

/-- The list of projects, if there are any. -/
def projectsDefinition? (configuration : Configuration) : Option Definition :=
  if configuration.projects = [] then none
  else some ⟨"LLVM_ENABLE_PROJECTS", .string, listValue configuration.projects⟩

/-- All definitions of a build, in order. -/
def definitions (configuration : Configuration) : List Definition :=
  baseline ++ configuration.libxml2Definition :: configuration.targetsDefinition ::
    configuration.projectsDefinition?.toList

/-- The arguments that CMake is given. -/
def arguments (configuration : Configuration) : List String :=
  configuration.definitions.map Definition.argument

end Configuration

end LlvmProvision
