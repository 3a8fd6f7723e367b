import LlvmProvision.CommandLine.Refusal

/-!
# Items of a command line

The words of a command line are first told apart into items: settings, and values of the
setting before them.  `Item.ofWords` does so without judging the values.

A word that begins with a dash and has more behind it never is a value.  After a list
setting any number of values may follow, after another setting one, and none after a
setting that has its value behind an equals sign.  Behind a bare `--` nothing may follow.
-/
namespace LlvmProvision.CommandLine

/-- A part of a command line. -/
inductive Item
  /-- A setting was named. -/
  | name (setting : Setting)
  /-- A value was given to a setting. -/
  | value (setting : Setting) (text : String)
  deriving DecidableEq, Repr

namespace Item

/-- Whether a word is meant as an option. -/
def isOption (word : List Char) : Bool := word.head? = some '-' ∧ word ≠ ['-']

/-- What an option means. -/
inductive Meaning
  | refused (refusal : Refusal)
  /-- A setting whose value is to follow. -/
  | opens (setting : Setting)
  /-- A setting with its value. -/
  | assigns (setting : Setting) (value : String)
  deriving DecidableEq, Repr

/-- The meaning of an option with a long name: how many dashes there are in front of the
name is not looked at, nor how many equals signs there are in front of the value. -/
def meaningOfLong (word : List Char) : Meaning :=
  let bare := word.dropWhile (· = '-')
  let long := String.ofList (bare.takeWhile (· ≠ '='))
  match Setting.ofName? long, bare.dropWhile (· ≠ '=') with
  | some setting, [] => .opens setting
  | some setting, equals => .assigns setting (String.ofList (equals.dropWhile (· = '=')))
  | none, _ =>
    if long = "help" then .refused .help
    else if long = "version" then .refused .version
    else .refused (.unknownArgument ("--" ++ long))

/-- The meaning of an option with a one-letter name. -/
def meaningOfShort (letter : Char) : Meaning :=
  if letter = 'h' then .refused .help
  else if letter = 'V' then .refused .version
  else .refused (.unknownArgument (String.ofList ['-', letter]))

/-- The meaning of an option. -/
def meaning : List Char → Meaning
  | '-' :: '-' :: rest => meaningOfLong rest
  | '-' :: letter :: _ => meaningOfShort letter
  | word => .refused (.unknownArgument (String.ofList word))

/-- Tells the words of a command line apart.  `taker` is the setting that a value would
belong to. -/
def fromWords (taker : Option Setting) : List String → Except Refusal (List Item)
  | [] => .ok []
  | word :: words =>
    if word = "--" then
      match words with
      | [] => .ok []
      | next :: _ => .error (.unknownArgument next)
    else if isOption word.toList then
      match meaning word.toList with
      | .refused refusal => .error refusal
      | .opens named => (fromWords (some named) words).map (.name named :: ·)
      | .assigns named text =>
        (fromWords none words).map fun items => .name named :: .value named text :: items
    else
      match taker with
      | none => .error (.unknownArgument word)
      | some named =>
        (fromWords (if named.isList then some named else none) words).map
          (.value named word :: ·)

/-- Tells the words of a command line apart. -/
def ofWords (words : List String) : Except Refusal (List Item) := fromWords none words

/-- How often a setting is named. -/
def mentions (items : List Item) (named : Setting) : Nat := items.count (.name named)

/-- The value an item gives to a setting. -/
def valueFor? (named : Setting) : Item → Option String
  | .value other text => if other = named then some text else none
  | .name _ => none

/-- The values given to a setting, in order. -/
def values (items : List Item) (named : Setting) : List String :=
  items.filterMap (valueFor? named)

end Item

end LlvmProvision.CommandLine
