/-!
# Cache definitions

A setting of a CMake build is passed as `-DNAME:TYPE=VALUE`, the type being optional.
`argument` writes a definition so and `read?` reads one back.
-/
namespace LlvmProvision.CMake

/-- The type of a setting. -/
inductive Kind
  | untyped
  | bool
  | string
  deriving DecidableEq, Repr

/-- The type as it follows the name of the setting. -/
def Kind.suffix : Kind → String
  | untyped => ""
  | bool => ":BOOL"
  | string => ":STRING"

/-- One setting of a build. -/
structure Definition where
  name : String
  kind : Kind
  value : String
  deriving DecidableEq, Repr

namespace Definition

/-- A setting that is on or off. -/
def switch (name : String) (on : Bool) : Definition :=
  ⟨name, .bool, if on then "ON" else "OFF"⟩

/-- The argument that passes the definition. -/
def argument (definition : Definition) : String :=
  "-D" ++ definition.name ++ definition.kind.suffix ++ "=" ++ definition.value

/-- The type with the given suffix. -/
def kindOf? (suffix : List Char) : Option Kind :=
  [Kind.untyped, .bool, .string].find? fun kind => kind.suffix.toList = suffix

/-- Reads an argument that passes a definition: the name ends at the first colon or
equals sign, the type at the first equals sign. -/
def read? (argument : String) : Option Definition :=
  match argument.toList with
  | '-' :: 'D' :: rest =>
    let head := rest.takeWhile (· ≠ '=')
    match rest.dropWhile (· ≠ '=') with
    | '=' :: value =>
      (kindOf? (head.dropWhile (· ≠ ':'))).map fun kind =>
        ⟨String.ofList (head.takeWhile (· ≠ ':')), kind, String.ofList value⟩
    | _ => none
  | _ => none

end Definition

end LlvmProvision.CMake
