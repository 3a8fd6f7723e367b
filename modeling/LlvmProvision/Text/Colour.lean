/-!
# Coloured text

Headings, notices and errors are coloured with the escape sequences of a terminal,
unless colour is off, when the text is left alone.
-/
namespace LlvmProvision.Text

/-- The colours in use. -/
inductive Colour
  | red
  | yellow
  | brightGreen
  | brightBlue
  deriving DecidableEq, Repr

namespace Colour

/-- The number that selects the colour of the text that follows. -/
def code : Colour → Nat
  | red => 31
  | yellow => 33
  | brightGreen => 92
  | brightBlue => 94

/-- The sequence that turns the colour on. -/
def start (colour : Colour) : List Char :=
  ['\x1b', '['] ++ (toString colour.code).toList ++ ['m']

/-- The sequence that turns every colour off. -/
def reset : List Char := ['\x1b', '[', '0', 'm']

/-- A reset inside the text would end the colour early, so the colour is turned on
again after each. -/
def resume (colour : Colour) : List Char → List Char
  | '\x1b' :: '[' :: '0' :: 'm' :: rest => reset ++ colour.start ++ resume colour rest
  | c :: rest => c :: resume colour rest
  | [] => []

/-- The text in the colour, or the bare text when colour is off. -/
def paint (enabled : Bool) (colour : Colour) (text : String) : String :=
  if enabled then String.ofList (colour.start ++ colour.resume text.toList ++ reset) else text

end Colour

end LlvmProvision.Text
