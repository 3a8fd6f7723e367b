/-!
# Words of a shell command

A command is shown as a line that a shell would take for the same words.  `quoteWord`
puts a word in single quotes if a character in it means something to a shell, and
`commandLine` puts the words in a row.  `readWords` reads a line by the rules of a POSIX
shell; a line in which the shell would replace something, or join commands, is refused.
-/
namespace LlvmProvision.Shell

/-- The characters that keep a word from being shown bare. -/
def specialChars : List Char :=
  ['|', '&', ';', '<', '>', '(', ')', '$', '\x60', '\\', '"', '\'', ' ', '\t', '\n', '*', '?',
   '[', '#', '~', '=', '%']

/-- One character inside single quotes.  A single quote ends the quotes, stands escaped,
and opens them again. -/
def quoteChar (c : Char) : List Char :=
  if c = '\'' then ['\'', '\\', '\'', '\''] else [c]

/-- A word as a shell reads it back. -/
def quoteWord (word : List Char) : List Char :=
  if word ≠ [] ∧ word.all (fun c => !specialChars.contains c) then word
  else '\'' :: word.flatMap quoteChar ++ ['\'']

/-- The words in a row, one blank between each two. -/
def quoteWords : List (List Char) → List Char
  | [] => []
  | [word] => quoteWord word
  | word :: next :: rest => quoteWord word ++ ' ' :: quoteWords (next :: rest)

/-- The line that shows a command. -/
def commandLine (words : List String) : String :=
  String.ofList (quoteWords (words.map String.toList))

/-- What a reader of a line is in the middle of. -/
inductive Reading
  /-- Between words or in an unquoted part of one. -/
  | bare
  /-- Between single quotes. -/
  | single
  /-- Between double quotes. -/
  | double
  /-- Behind a backslash outside of quotes. -/
  | escaped
  /-- Behind a backslash between double quotes. -/
  | doubleEscaped
  deriving DecidableEq, Repr

/-- The characters with which a shell joins commands, replaces text or begins a comment. -/
def activeChars : List Char :=
  ['|', '&', ';', '<', '>', '(', ')', '$', '\x60', '*', '?', '[', '#', '~', '\n']

/-- The characters that a backslash protects between double quotes. -/
def doubleQuoteEscapes : List Char := ['$', '\x60', '"', '\\']

/-- The word so far with a text behind it. -/
def grow (word : Option (List Char)) (text : List Char) : Option (List Char) :=
  some (word.getD [] ++ text)

/-- Reads the rest of a line.  `word` is what has been read of the current word; between
two words there is none. -/
def readFrom : Reading → Option (List Char) → List Char → Option (List (List Char))
  | .bare, word, [] => some word.toList
  | _, _, [] => none
  | .bare, word, c :: rest =>
    if c = ' ' ∨ c = '\t' then (readFrom .bare none rest).map (word.toList ++ ·)
    else if c = '\'' then readFrom .single (grow word []) rest
    else if c = '"' then readFrom .double (grow word []) rest
    else if c = '\\' then readFrom .escaped word rest
    else if c ∈ activeChars then none
    else readFrom .bare (grow word [c]) rest
  | .single, word, c :: rest =>
    if c = '\'' then readFrom .bare word rest else readFrom .single (grow word [c]) rest
  | .double, word, c :: rest =>
    if c = '"' then readFrom .bare word rest
    else if c = '\\' then readFrom .doubleEscaped word rest
    else if c = '$' ∨ c = '\x60' then none
    else readFrom .double (grow word [c]) rest
  | .escaped, word, c :: rest =>
    if c = '\n' then readFrom .bare word rest else readFrom .bare (grow word [c]) rest
  | .doubleEscaped, word, c :: rest =>
    if c = '\n' then readFrom .double word rest
    else if c ∈ doubleQuoteEscapes then readFrom .double (grow word [c]) rest
    else readFrom .double (grow word ['\\', c]) rest

/-- The words of a line. -/
def readWords (line : String) : Option (List String) :=
  (readFrom .bare none line.toList).map (·.map String.ofList)

end LlvmProvision.Shell
