import LlvmProvision.Text.Fields
import LlvmProvision.Text.Unprintable

/-!
# Quoted text

Paths are shown between double quotes, so that spaces, line ends and characters
that do not show can be told apart.  A quote or a backslash gets a backslash in
front; NUL, tab, line feed and carriage return are written by letter; every other
character that does not show is written as its code point in hexadecimal between
braces.  All else, the apostrophe included, stands for itself.
-/
namespace LlvmProvision.Text.Quoted

/-- The hexadecimal digits of a number, in lower case and without leading zeros. -/
def hexadecimal (n : Nat) : List Char := Nat.toDigits 16 n

/-- A character by its code point. -/
def numbered (c : Char) : List Char :=
  ['\\', 'u', '\x7b'] ++ hexadecimal c.toNat ++ ['\x7d']

/-- How one character is written between the quotes. -/
def escape (c : Char) : List Char :=
  if c = '"' then ['\\', '"']
  else if c = '\\' then ['\\', '\\']
  else if c = '\x00' then ['\\', '0']
  else if c = '\t' then ['\\', 't']
  else if c = '\n' then ['\\', 'n']
  else if c = '\r' then ['\\', 'r']
  else if isUnprintable c then numbered c
  else [c]

/-- A text between quotes. -/
def quote (text : String) : String :=
  String.ofList ('"' :: text.toList.flatMap escape ++ ['"'])

/-- A list of texts, each between quotes, in square brackets. -/
def quoteList (texts : List String) : String :=
  "[" ++ joined ", " (texts.map quote) ++ "]"

end LlvmProvision.Text.Quoted
